import OrgConsole.Proofs.Http.PercentEncoding
import OrgConsole.Proofs.Http.Sending
import OrgConsole.Proofs.Text.Separator
/-!
# One segment for each id

An id goes into the path of a request as a segment of its own, and the segment reads back as the id, if
nothing of the id is dropped on the way and it is not one of the two texts that stand for places in a
path. Exactly those ids keep to their segment, and for them a target names one endpoint only.
-/

namespace OrgConsole

namespace Url

/-! ## Paths -/

def withoutEmptyLast (path : List String) : List String :=
  if path.getLast? = some "" then path.dropLast else path

/-- The segments of a path without one empty segment at its end; the root has none. -/
def stem (path : List String) : List String :=
  if withoutEmptyLast path = [""] then [] else withoutEmptyLast path

theorem dropEmptyLast_eq {path : List String} (h : path ≠ [""]) : dropEmptyLast path = withoutEmptyLast path := by
  have hlength : path.getLast? = some "" → 1 < path.length := by
    intro hlast
    rcases path with _ | ⟨s, _ | ⟨t, rest⟩⟩
    · cases hlast
    · exact absurd (congrArg Option.toList hlast) h
    · exact Nat.succ_lt_succ (Nat.succ_pos _)
  unfold dropEmptyLast withoutEmptyLast
  by_cases hlast : path.getLast? = some ""
  · simp [hlast, hlength hlast]
  · simp [hlast]

theorem addSegment_dropEmptyLast (path : List String) (segment : String) :
    addSegment (dropEmptyLast path) segment = stem path ++ [segment] := by
  by_cases hroot : path = [""]
  · subst hroot
    rfl
  · rw [dropEmptyLast_eq hroot, addSegment, stem]
    split
    · rfl
    · rfl

/-- Only the root takes a segment in place of its own. -/
theorem addSegment_append (front : List String) {segments : List String} (h : segments ≠ [""])
    (hne : segments ≠ []) (segment : String) :
    addSegment (front ++ segments) segment = front ++ (segments ++ [segment]) := by
  have hroot : front ++ segments ≠ [""] := by
    intro he
    rcases List.append_eq_singleton_iff.1 he with ⟨-, hs⟩ | ⟨-, hs⟩
    · exact h hs
    · exact hne hs
  rw [addSegment, if_neg hroot, List.append_assoc]

/-- A path with something before its last segment has that segment added to the rest. -/
theorem eq_of_addSegment_eq {path front : List String} {segment last : String} (hfront : front ≠ [])
    (h : addSegment path segment = front ++ [last]) : path = front ∧ segment = last := by
  unfold addSegment at h
  split at h
  · have hnil : [] ++ [segment] = front ++ [last] := h
    exact absurd (List.append_inj_left' hnil rfl).symm hfront
  · obtain ⟨hpath, hlast⟩ := List.append_inj' h rfl
    exact ⟨hpath, List.singleton_inj.1 hlast⟩

theorem isSeparated_pathText (path : List String) : Text.IsSeparated '/' (pathText path) := by
  cases path <;> simp [Text.IsSeparated, pathText]

/-- The text of a path says what its segments are, if there is no slash in them. -/
theorem pathText_inj : ∀ {path path' : List String}, (∀ s ∈ path, '/' ∉ s.toList) → (∀ s ∈ path', '/' ∉ s.toList) →
    pathText path = pathText path' → path = path'
  | [], [], _, _, _ => rfl
  | [], _ :: _, _, _, h => by cases h
  | _ :: _, [], _, _, h => by cases h
  | s :: path, t :: path', hpath, hpath', h => by
    rw [List.forall_mem_cons] at hpath hpath'
    have htail : s.toList ++ pathText path = t.toList ++ pathText path' := List.tail_eq_of_cons_eq h
    obtain ⟨hst, hrest⟩ :=
      Text.part_inj hpath.1 hpath'.1 (isSeparated_pathText path) (isSeparated_pathText path') htail
    rw [String.toList_inj.1 hst, pathText_inj hpath.2 hpath'.2 hrest]

/-! ## Segments -/

/-- A text without what is dropped from it. -/
def withoutDropped (s : String) : String :=
  String.ofList (s.toList.filter (!isDropped ·))

/-- A text that a segment can hold: nothing is dropped from it, and it does not stand for a place. -/
def FitsSegment (s : String) : Prop :=
  s ≠ "." ∧ s ≠ ".." ∧ withoutDropped s = s

instance : DecidablePred FitsSegment := fun s =>
  inferInstanceAs (Decidable (s ≠ "." ∧ s ≠ ".." ∧ withoutDropped s = s))

theorem decodeText?_encodeSegment (special : Bool) (s : String) :
    PercentEncoding.decodeText? (encodeSegment special s) = some (withoutDropped s) := by
  have hpercent : PercentEncoding.inSegment special '%' = false := by cases special <;> decide
  exact PercentEncoding.decodeText?_encode hpercent _

theorem encodeSegment_eq_iff {special : Bool} {s t : String} :
    encodeSegment special s = encodeSegment special t ↔ withoutDropped s = withoutDropped t := by
  constructor
  · intro h
    have hdecoded := congrArg PercentEncoding.decodeText? h
    rwa [decodeText?_encodeSegment, decodeText?_encodeSegment, Option.some.injEq] at hdecoded
  · intro h
    have hlist := congrArg String.toList h
    rw [withoutDropped, withoutDropped, String.toList_ofList, String.toList_ofList] at hlist
    rw [encodeSegment, encodeSegment, hlist]

/-- What is written as a place has come to it by what is dropped, if it is not the place itself. -/
theorem encodeSegment_eq_place_iff {special : Bool} {s place : String} (h : place ∈ [".", ".."]) :
    encodeSegment special s = place ↔ withoutDropped s = place := by
  have hplace : encodeSegment special place = place ∧ withoutDropped place = place := by
    revert place
    cases special <;> decide
  have hiff : encodeSegment special s = encodeSegment special place ↔ withoutDropped s = withoutDropped place :=
    encodeSegment_eq_iff
  rwa [hplace.1, hplace.2] at hiff

/-- A text that fits is pushed as one segment. -/
theorem push_of_fits {special : Bool} {s : String} (h : FitsSegment s) (path : List String) :
    push special path s = addSegment path (encodeSegment special s) := by
  obtain ⟨hhere, habove, hkept⟩ := h
  have hhere' : ¬encodeSegment special s = "." := by rwa [encodeSegment_eq_place_iff (by decide), hkept]
  have habove' : ¬encodeSegment special s = ".." := by rwa [encodeSegment_eq_place_iff (by decide), hkept]
  rw [push]
  simp only [hhere, habove, decide_false, Bool.or_self, Bool.false_eq_true, if_false, hhere', habove']

/-- A text that is pushed as one segment fits, if the segment reads back as it. -/
theorem fits_of_push {special : Bool} {s segment : String} {path : List String} (hpath : path ≠ [])
    (h : push special path s = path ++ [segment]) (hdecoded : PercentEncoding.decodeText? segment = some s) :
    FitsSegment s := by
  have hlonger : path ≠ path ++ [segment] := fun he => by simpa using congrArg List.length he
  -- A text that comes to a place leaves an empty segment, which reads back as the empty text.
  have hempty : ∀ path', addSegment path' "" = path ++ [segment] → s = "" := by
    intro path' hadd
    obtain rfl := (eq_of_addSegment_eq hpath hadd).2
    rw [← Option.some.injEq, ← hdecoded]
    decide
  unfold push at h
  split at h
  · exact absurd h hlonger
  · rename_i hpoints
    dsimp only at h
    split at h
    · rename_i hhere
      rw [encodeSegment_eq_place_iff (by decide), hempty _ h] at hhere
      exact absurd hhere (by decide)
    · split at h
      · rename_i habove
        rw [encodeSegment_eq_place_iff (by decide), hempty _ h] at habove
        exact absurd habove (by decide)
      · obtain rfl := (eq_of_addSegment_eq hpath h).2
        rw [decodeText?_encodeSegment, Option.some.injEq] at hdecoded
        simp only [Bool.or_eq_true, decide_eq_true_eq, not_or] at hpoints
        exact ⟨hpoints.1, hpoints.2, hdecoded⟩

/-- The names in the paths of requests. -/
def pathNames : List String :=
  ["api", "org", "tree", "departments", "employees", "roles", "permissions"]

/-- A name is pushed as it is. -/
theorem push_name {special : Bool} {name : String} (h : name ∈ pathNames) (path : List String) :
    push special path name = addSegment path name := by
  have hfits : FitsSegment name ∧ encodeSegment special name = name := by
    revert name
    cases special <;> decide
  rw [push_of_fits hfits.1, hfits.2]

theorem slash_not_mem_encodeSegment (special : Bool) (s : String) : '/' ∉ (encodeSegment special s).toList := by
  intro h
  rw [encodeSegment, String.toList_ofList] at h
  rcases PercentEncoding.mem_encode h with hplain | hdigit
  · revert hplain
    cases special <;> decide
  · revert hdigit
    decide

end Url

/-! ## Endpoints -/

namespace Resource

theorem collection_mem_pathNames (resource : Resource) : resource.collection ∈ Url.pathNames := by
  cases resource <;> decide

theorem name_mem_pathNames (resource : Resource) : resource.name ∈ Url.pathNames := by
  cases resource <;> decide

theorem collection_injective : Function.Injective collection := by
  intro r r' h
  revert h
  cases r <;> cases r' <;> decide

end Resource

namespace Endpoint

/-- The endpoint is for no id, or for one that fits a segment. -/
def Fits : Endpoint → Prop
  | orgTree => True
  | ofId _ id => Url.FitsSegment id

/-- The segments of an endpoint as they stand in a path. -/
def encoded (special : Bool) : Endpoint → List String
  | orgTree => ["org", "tree"]
  | ofId resource id => [resource.collection, Url.encodeSegment special id, resource.name]

theorem eq_of_encoded_eq {special : Bool} {e e' : Endpoint} (he : e.Fits) (he' : e'.Fits)
    (h : e.encoded special = e'.encoded special) : e = e' := by
  match e, e' with
  | orgTree, orgTree => rfl
  | orgTree, ofId _ _ | ofId _ _, orgTree => simp [encoded] at h
  | ofId resource id, ofId resource' id' =>
    obtain ⟨hcollection, hid, -⟩ : resource.collection = resource'.collection ∧
        Url.encodeSegment special id = Url.encodeSegment special id' ∧ _ := by
      simpa only [encoded, List.cons.injEq] using h
    obtain rfl := Resource.collection_injective hcollection
    rw [Url.encodeSegment_eq_iff, he.2.2, he'.2.2] at hid
    rw [hid]

theorem slash_not_mem_encoded (special : Bool) (e : Endpoint) : ∀ s ∈ "api" :: e.encoded special, '/' ∉ s.toList := by
  have hnames : ∀ name ∈ Url.pathNames, '/' ∉ name.toList := by decide
  cases e with
  | orgTree =>
    have hfixed : ∀ s ∈ ["api", "org", "tree"], '/' ∉ s.toList := by decide
    exact hfixed
  | ofId resource id =>
    intro s hs
    simp only [encoded, List.mem_cons, List.not_mem_nil, or_false] at hs
    rcases hs with rfl | rfl | rfl | rfl
    · exact hnames _ (by decide)
    · exact hnames _ resource.collection_mem_pathNames
    · exact Url.slash_not_mem_encodeSegment special id
    · exact hnames _ resource.name_mem_pathNames

end Endpoint

/-! ## The URL of an endpoint -/

namespace Url

variable (u : Url)

theorem path_join_api (segments : List String) :
    (u.join ("api" :: segments)).path = segments.foldl (push u.isSpecial) (stem u.path ++ ["api"]) := by
  rw [join, List.foldl_cons, @push_name _ "api" (by decide), addSegment_dropEmptyLast]

theorem path_join_ofId (resource : Resource) (id : String) :
    (u.join ("api" :: (Endpoint.ofId resource id).segments)).path =
      addSegment (push u.isSpecial (stem u.path ++ ["api", resource.collection]) id) resource.name := by
  rw [path_join_api, Endpoint.segments, List.foldl_cons, List.foldl_cons, List.foldl_cons, List.foldl_nil,
    push_name resource.collection_mem_pathNames, push_name resource.name_mem_pathNames,
    addSegment_append _ (by decide) (by decide)]
  rfl

theorem path_join_of_fits {e : Endpoint} (h : e.Fits) :
    (u.join ("api" :: e.segments)).path = stem u.path ++ "api" :: e.encoded u.isSpecial := by
  cases e with
  | orgTree =>
    rw [path_join_api, Endpoint.segments, List.foldl_cons, List.foldl_cons, List.foldl_nil,
      @push_name _ "org" (by decide), @push_name _ "tree" (by decide),
      addSegment_append _ (by decide) (by decide), addSegment_append _ (by decide) (by decide)]
    rfl
  | ofId resource id =>
    rw [path_join_ofId, push_of_fits h, addSegment_append _ (by simp) (by simp), addSegment_append _ (by simp) (by simp)]
    rfl

/-- The id has one segment, and that reads back as the id, exactly if the id fits a segment. -/
theorem one_segment_iff (resource : Resource) (id : String) :
    (∃ segment, (u.join ("api" :: (Endpoint.ofId resource id).segments)).path =
        stem u.path ++ ["api", resource.collection, segment, resource.name] ∧
        PercentEncoding.decodeText? segment = some id) ↔ FitsSegment id := by
  constructor
  · rintro ⟨segment, hpath, hdecoded⟩
    have hadd : addSegment (push u.isSpecial (stem u.path ++ ["api", resource.collection]) id) resource.name =
        ((stem u.path ++ ["api", resource.collection]) ++ [segment]) ++ [resource.name] := by
      rw [← path_join_ofId, hpath, List.append_assoc, List.append_assoc]
      rfl
    exact fits_of_push (by simp) (eq_of_addSegment_eq (by simp) hadd).1 hdecoded
  · intro h
    exact ⟨_, u.path_join_of_fits (e := .ofId resource id) h, by rw [decodeText?_encodeSegment, h.2.2]⟩

/-- For ids that fit, what is asked for says what the endpoint is. -/
theorem endpoint_of_target {e e' : Endpoint} (he : e.Fits) (he' : e'.Fits)
    (h : (u.join ("api" :: e.segments)).target = (u.join ("api" :: e'.segments)).target) : e = e' := by
  -- The query is that of the base, and so is the stem of the path.
  have htext : pathText (u.join ("api" :: e.segments)).path = pathText (u.join ("api" :: e'.segments)).path :=
    List.append_cancel_right (String.ofList_injective h)
  rw [path_join_of_fits u he, path_join_of_fits u he', pathText, pathText, List.flatMap_append, List.flatMap_append,
    List.append_cancel_left_eq] at htext
  have hencoded := pathText_inj (Endpoint.slash_not_mem_encoded _ e) (Endpoint.slash_not_mem_encoded _ e') htext
  exact Endpoint.eq_of_encoded_eq he he' (List.tail_eq_of_cons_eq hencoded)

end Url

/-! ## Requests for ids -/

namespace Client

theorem ofConfig_of_read {config : ApiConfig} {base : Url} (h : Url.read? config.baseUrl = some base) :
    ofConfig config = .ok ⟨base, config.username, config.password⟩ := by
  rw [ofConfig, h]

/-- Each request goes to the URL of its endpoint. There the id has a segment of its own, between the names
of the endpoint and after the path of the base, from which it can be read back, exactly if it fits one; and
what is asked for at the endpoints of such ids is never the same for two of them. -/
theorem id_keeps_to_segment (c : Client) :
    (∀ {σ : Type} (send : Transport σ) (r : Request) (s : Session σ),
      (c.sent send r s).map (·.url) =
        if (c.endpoint r.endpoint.segments).isSendable then [c.endpoint r.endpoint.segments] else []) ∧
    (∀ resource id,
      (∃ segment, (c.endpoint (Endpoint.ofId resource id).segments).path =
          Url.stem c.base.path ++ ["api", resource.collection, segment, resource.name] ∧
          PercentEncoding.decodeText? segment = some id) ↔ Url.FitsSegment id) ∧
    ∀ e e' : Endpoint, e.Fits → e'.Fits →
      (c.endpoint e.segments).target = (c.endpoint e'.segments).target → e = e' := by
  refine ⟨fun send r s => ?_, c.base.one_segment_iff, fun e e' he he' => c.base.endpoint_of_target he he'⟩
  rw [sent_eq, requestsOf]
  split
  · rfl
  · rfl

/-- An id with a slash and a percent sign keeps to its segment below a base with a path. -/
theorem slashed_id_keeps_to_segment :
    ∃ c, ofConfig ⟨"http://localhost/console/", "", ""⟩ = .ok c ∧
      (∃ segment, (c.endpoint ["employees", "../%41", "departments"]).path =
        ["console", "api", "employees", segment, "departments"] ∧
        PercentEncoding.decodeText? segment = some "../%41") ∧
      (c.endpoint ["employees", "../%41", "departments"]).target ≠ (c.endpoint ["employees", "../A", "departments"]).target := by
  have hread : Url.read? "http://localhost/console/" =
      some ⟨"http", none, some (.domain "localhost"), none, ["console", ""], none, none⟩ := by
    decide +kernel
  have hexact := id_keeps_to_segment ⟨⟨"http", none, some (.domain "localhost"), none, ["console", ""], none, none⟩, "", ""⟩
  refine ⟨_, ofConfig_of_read hread, (hexact.2.1 .employeeDepartments "../%41").2 (by decide), fun h => ?_⟩
  have hsame := hexact.2.2 (.ofId .employeeDepartments "../%41") (.ofId .employeeDepartments "../A")
    (show Url.FitsSegment _ by decide) (show Url.FitsSegment _ by decide) h
  revert hsame
  decide

/-- The id of one point is left out of the path, which then is that of no endpoint, and an id with a tab is
sent as the id without it. -/
theorem ids_outside_their_segment :
    ∃ c, ofConfig ⟨"http://localhost:8080", "", ""⟩ = .ok c ∧
      (c.endpoint (Endpoint.ofId .employeeDepartments ".").segments).path = ["api", "employees", "departments"] ∧
      c.endpoint (Endpoint.ofId .employeeDepartments "a\tb").segments =
        c.endpoint (Endpoint.ofId .employeeDepartments "ab").segments := by
  have hread : Url.read? "http://localhost:8080" =
      some ⟨"http", none, some (.domain "localhost"), some 8080, [""], none, none⟩ := by
    decide +kernel
  exact ⟨_, ofConfig_of_read hread, by decide, by decide⟩

end Client

end OrgConsole
