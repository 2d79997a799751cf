import OrgConsole.Proofs.Permission.Seed
import OrgConsole.Proofs.Text.Separator
/-!
# Shared ids

A template is refused for the first of its actions whose id an action before it has. An id is made of three names with
underscores between them, so actions with different names can share one, but only with the help of underscores in
the names of domains and resources: the first two underscores of an id show where those names end if they have none
of their own.
-/

namespace OrgConsole

variable {groups : List PermissionGroup}

/-! ## The first repeated id -/

/-- Before the id that is found nothing is repeated. -/
theorem firstRepeat?_split {seen ids : List String} {id : String} (h : firstRepeat? seen ids = some id) :
    ∃ before after, ids = before ++ id :: after ∧ firstRepeat? seen before = none ∧ (id ∈ before ∨ id ∈ seen) := by
  induction ids generalizing seen with
  | nil => cases h
  | cons first rest ih =>
    unfold firstRepeat? at h
    split at h
    · rename_i hseen
      obtain rfl := Option.some.inj h
      exact ⟨[], rest, rfl, rfl, .inr hseen⟩
    · rename_i hfresh
      obtain ⟨before, after, rfl, hnone, hrepeat⟩ := ih h
      refine ⟨first :: before, after, rfl, ?_, ?_⟩
      · rw [firstRepeat?, if_neg hfresh, hnone]
      · rcases hrepeat with hbefore | hseen
        · exact .inl (List.mem_cons_of_mem first hbefore)
        · rcases List.mem_cons.1 hseen with rfl | hseen
          · exact .inl List.mem_cons_self
          · exact .inr hseen

/-- Of two actions with one id the template is refused for the second, and of several such pairs for the one that is
first complete. -/
theorem checkUnique_eq_error {ε : Type} (hshared : ¬ (permissionIds groups).Nodup) :
    ∃ before l after, leaves groups = before ++ l :: after ∧ (before.map (·.id)).Nodup ∧ l.id ∈ before.map (·.id) ∧
      (checkUnique groups : Except (Failure ε) Unit) = .error (.duplicatePermission l.id) := by
  cases hrepeat : firstRepeat? [] (permissionIds groups) with
  | none => exact absurd (firstRepeat?_eq_none_iff.1 hrepeat).1 hshared
  | some id =>
    obtain ⟨ids, others, hids, hnone, hmem⟩ := firstRepeat?_split hrepeat
    obtain ⟨before, _, hleaves, rfl, hrest⟩ := List.map_eq_append_iff.1 hids
    obtain ⟨l, after, rfl, rfl, -⟩ := List.map_eq_cons_iff.1 hrest
    refine ⟨before, l, after, hleaves, (firstRepeat?_eq_none_iff.1 hnone).1, ?_, ?_⟩
    · exact hmem.resolve_right (List.not_mem_nil)
    · rw [checkUnique, hrepeat]

/-! ## Names and ids -/

/-- What names an action: its domain, its resource and its own name. -/
def Leaf.names (l : Leaf) : String × String × String :=
  (l.domain, l.resource, l.action.action)

theorem id_of_mem_leaves {l : Leaf} (h : l ∈ leaves groups) :
    l.id = permissionId l.domain l.resource l.action.action := by
  obtain ⟨g, -, r, -, a, -, rfl⟩ := mem_leaves.1 h
  rfl

/-- No name of a domain or a resource has an underscore. Those of actions may have some. -/
def NoUnderscores (groups : List PermissionGroup) : Prop :=
  ∀ g ∈ groups, '_' ∉ g.domain.toList ∧ ∀ r ∈ g.resources, '_' ∉ r.resource.toList

theorem NoUnderscores.names (h : NoUnderscores groups) {l : Leaf} (hl : l ∈ leaves groups) :
    '_' ∉ l.domain.toList ∧ '_' ∉ l.resource.toList := by
  obtain ⟨g, hg, r, hr, a, -, rfl⟩ := mem_leaves.1 hl
  exact ⟨(h g hg).1, (h g hg).2 r hr⟩

theorem toList_permissionId (domain resource action : String) : (permissionId domain resource action).toList =
    domain.toList ++ '_' :: (resource.toList ++ '_' :: action.toList) := by
  simp [permissionId]

/-- The first two underscores of an id end the names of domain and resource, if these have none. -/
theorem eq_of_permissionId_eq {domain domain' resource resource' action action' : String}
    (hdomain : '_' ∉ domain.toList) (hdomain' : '_' ∉ domain'.toList) (hresource : '_' ∉ resource.toList)
    (hresource' : '_' ∉ resource'.toList)
    (h : permissionId domain resource action = permissionId domain' resource' action') :
    domain = domain' ∧ resource = resource' ∧ action = action' := by
  rw [← String.toList_inj, toList_permissionId, toList_permissionId] at h
  have hseparated : ∀ rest, Text.IsSeparated '_' ('_' :: rest) := fun _ _ hc => (Option.some.inj hc).symm
  obtain ⟨hdomains, hrest⟩ := Text.part_inj hdomain hdomain' (hseparated _) (hseparated _) h
  obtain ⟨hresources, hactions⟩ :=
    Text.part_inj hresource hresource' (hseparated _) (hseparated _) (List.cons.inj hrest).2
  exact ⟨String.toList_inj.1 hdomains, String.toList_inj.1 hresources,
    String.toList_inj.1 (List.cons.inj hactions).2⟩

theorem NoUnderscores.names_eq (h : NoUnderscores groups) {l l' : Leaf} (hl : l ∈ leaves groups)
    (hl' : l' ∈ leaves groups) (hid : l.id = l'.id) : l.names = l'.names := by
  rw [id_of_mem_leaves hl, id_of_mem_leaves hl'] at hid
  obtain ⟨hdomain, hresource⟩ := h.names hl
  obtain ⟨hdomain', hresource'⟩ := h.names hl'
  obtain ⟨hd, hr, ha⟩ := eq_of_permissionId_eq hdomain hdomain' hresource hresource' hid
  rw [Leaf.names, Leaf.names, hd, hr, ha]

/-- Actions of different names have different ids. -/
theorem NoUnderscores.nodup (h : NoUnderscores groups) (hnames : ((leaves groups).map (·.names)).Nodup) :
    (permissionIds groups).Nodup := by
  refine List.pairwise_map.2 ((List.pairwise_map.1 hnames).imp_of_mem fun hl hl' hne hid => ?_)
  exact hne (h.names_eq hl hl' hid)

/-- A template is accepted exactly if no two of its actions share an id, and else it is refused for the id of the
first action whose id came before. If no domain and no resource has an underscore in its name, only actions of the
same names share an id, so a template whose actions differ in names has a matrix. -/
theorem checkUnique_exact {ε : Type} (groups : List PermissionGroup) :
    ((checkUnique groups : Except (Failure ε) Unit) = .ok () ↔ (permissionIds groups).Nodup) ∧
      (¬ (permissionIds groups).Nodup →
        ∃ before l after, leaves groups = before ++ l :: after ∧ (before.map (·.id)).Nodup ∧
          l.id ∈ before.map (·.id) ∧
          (checkUnique groups : Except (Failure ε) Unit) = .error (.duplicatePermission l.id)) ∧
      (NoUnderscores groups →
        (∀ l ∈ leaves groups, ∀ l' ∈ leaves groups, l.id = l'.id → l.names = l'.names) ∧
        (((leaves groups).map (·.names)).Nodup →
          (PermissionMatrix.ofGroups groups : Except (Failure ε) PermissionMatrix) =
            .ok ⟨groups, seedSelection groups⟩)) := by
  refine ⟨checkUnique_eq_ok_iff, checkUnique_eq_error, fun hplain => ⟨fun l hl l' hl' => hplain.names_eq hl hl', ?_⟩⟩
  exact fun hnames => ofGroups_eq_ok_iff.2 ⟨hplain.nodup hnames, rfl⟩

/-- One template in which underscores let two actions meet, and one with empty names in which they do not. -/
theorem checkUnique_exact_around_underscores :
    let template (domain resource : String) (actions : List String) : PermissionGroup :=
      ⟨domain, domain, [⟨resource, resource, actions.map fun name => ⟨name, name, "", 0, 0⟩⟩]⟩
    let shared := [template "a_b" "c" ["d"], template "a" "b_c" ["e", "d"]]
    let plain := [template "" "" ["_", ""], template "a" "" ["b_c"], template "a" "b" ["c", "c_d"]]
    ¬ (permissionIds shared).Nodup ∧
      (∃ before l after, leaves shared = before ++ l :: after ∧ (before.map (·.id)).Nodup ∧
        l.id ∈ before.map (·.id) ∧ l.id = "a_b_c_d" ∧
        (checkUnique shared : Except (Failure Empty) Unit) = .error (.duplicatePermission l.id)) ∧
      NoUnderscores plain ∧ ((leaves plain).map (·.names)).Nodup ∧
      (PermissionMatrix.ofGroups plain : Except (Failure Empty) PermissionMatrix) =
        .ok ⟨plain, seedSelection plain⟩ := by
  intro template shared plain
  have hshared : ¬ (permissionIds shared).Nodup := by decide
  have hplain : NoUnderscores plain := by
    unfold NoUnderscores
    decide
  have hnames : ((leaves plain).map (·.names)).Nodup := by decide
  obtain ⟨-, hrefused, -⟩ := @checkUnique_exact Empty shared
  obtain ⟨before, l, after, hleaves, hnodup, hmem, herror⟩ := hrefused hshared
  obtain ⟨-, -, haccepted⟩ := @checkUnique_exact Empty plain
  have hfirst : (checkUnique shared : Except (Failure Empty) Unit) = .error (.duplicatePermission "a_b_c_d") := by
    decide
  have hl : l.id = "a_b_c_d" := Failure.duplicatePermission.inj (Except.error.inj (herror.symm.trans hfirst))
  exact ⟨hshared, ⟨before, l, after, hleaves, hnodup, hmem, hl, herror⟩, hplain, hnames,
    (haccepted hplain).2 hnames⟩

end OrgConsole
