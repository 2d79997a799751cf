import Mathlib.Algebra.Group.Nat.Defs
import Mathlib.Data.List.Induction
import Mathlib.Logic.Function.Basic
import OrgConsole.Ticket
/-!
# Which tickets count

Slots take tickets and void them, in whatever order. The number of a slot's latest ticket counts how often
that slot was used, and a ticket has the number that its own use was given. So a ticket counts as long as
its slot is not used again, whatever happens to other slots. Only after 2 ^ 64 uses does a slot start
again with the numbers that it gave before.
-/

namespace OrgConsole

/-- Numbers count up and start again after 64 bits. -/
theorem RequestSequence.isCurrent_iff_mod {s : RequestSequence} {t : Ticket} {n m : Nat}
    (hs : s.latest = UInt64.ofNat n) (ht : t.number = UInt64.ofNat m) :
    s.isCurrent t = true ↔ n % 2 ^ 64 = m % 2 ^ 64 := by
  rw [isCurrent, decide_eq_true_iff, hs, ht, ← UInt64.toNat_inj, UInt64.toNat_ofNat', UInt64.toNat_ofNat']

/-- Every ticket that counts is the latest one. -/
theorem RequestSequence.isCurrent_iff_eq_newest (s : RequestSequence) (t : Ticket) :
    s.isCurrent t = true ↔ t = s.newest := by
  obtain ⟨number⟩ := t
  rw [isCurrent, decide_eq_true_iff, newest, Ticket.mk.injEq, eq_comm]

/-- What can be done with a slot. -/
inductive SlotAction
  | issue
  | invalidate
deriving DecidableEq, Repr

/-- The use of one slot. -/
structure SlotUse (ι : Type) where
  slot : ι
  action : SlotAction
deriving DecidableEq, Repr

/-- How often a slot was used. -/
def slotUses {ι : Type} [DecidableEq ι] (slot : ι) (us : List (SlotUse ι)) : Nat :=
  us.countP (·.slot = slot)

/-- Slots side by side, with all tickets that were issued and the slots that issued them. -/
structure Slots (ι : Type) where
  sequence : ι → RequestSequence
  issued : List (ι × Ticket)

namespace Slots

variable {ι : Type} [DecidableEq ι]

def new : Slots ι := ⟨fun _ => .new, []⟩

/-- What comes of it when a slot is used. -/
def after (s : Slots ι) (u : SlotUse ι) : Slots ι :=
  match u.action with
  | .issue =>
    let (ticket, sequence) := (s.sequence u.slot).issue
    ⟨Function.update s.sequence u.slot sequence, s.issued ++ [(u.slot, ticket)]⟩
  | .invalidate => { s with sequence := Function.update s.sequence u.slot (s.sequence u.slot).invalidate }

/-- What comes of new slots when they are used. -/
def run (us : List (SlotUse ι)) : Slots ι :=
  us.foldl after new

theorem run_concat (us : List (SlotUse ι)) (u : SlotUse ι) : run (us ++ [u]) = (run us).after u := by
  simp [run]

/-- The tickets of a slot, the first one first. -/
def issuedBy (s : Slots ι) (slot : ι) : List Ticket :=
  (s.issued.filter (·.1 = slot)).map (·.2)

/-- A slot finds that a ticket counts. -/
def finds (s : Slots ι) (slot : ι) (t : Ticket) : Bool :=
  (s.sequence slot).isCurrent t

/-- The ticket that a slot issues next. -/
def nextTicket (s : Slots ι) (slot : ι) : Ticket :=
  (s.sequence slot).issue.1

/-! ## One use -/

/-- A use counts its slot up and leaves all others alone. -/
theorem sequence_after (s : Slots ι) (u : SlotUse ι) (slot : ι) :
    (s.after u).sequence slot = if u.slot = slot then ⟨(s.sequence slot).latest + 1⟩ else s.sequence slot := by
  obtain ⟨used, action⟩ := u
  by_cases h : used = slot
  · subst h
    cases action <;> simp [after, RequestSequence.issue, RequestSequence.invalidate]
  · cases action <;> simp [after, h, Function.update_of_ne (Ne.symm h)]

theorem issuedBy_after (s : Slots ι) (u : SlotUse ι) (slot : ι) :
    (s.after u).issuedBy slot = s.issuedBy slot ++ if u = ⟨slot, .issue⟩ then [s.nextTicket slot] else [] := by
  obtain ⟨used, action⟩ := u
  by_cases h : used = slot
  · subst h
    cases action <;> simp [after, issuedBy, nextTicket]
  · cases action <;> simp [after, issuedBy, h]

/-! ## Runs -/

theorem latest_run (us : List (SlotUse ι)) (slot : ι) :
    ((run us).sequence slot).latest = UInt64.ofNat (slotUses slot us) := by
  induction us using List.reverseRecOn with
  | nil => rfl
  | append_singleton us u ih =>
    rw [run_concat, sequence_after, slotUses, List.countP_append, List.countP_singleton]
    by_cases h : u.slot = slot
    · simp only [h, if_true, decide_true, UInt64.ofNat_add, ih]
      rfl
    · simp only [h, if_false, decide_false, Bool.false_eq_true, Nat.add_zero]
      exact ih

theorem number_nextTicket (us : List (SlotUse ι)) (slot : ι) :
    ((run us).nextTicket slot).number = UInt64.ofNat (slotUses slot us + 1) := by
  rw [UInt64.ofNat_add, ← latest_run]
  rfl

/-- Every ticket of a slot was given to one of its uses. -/
theorem mem_issuedBy_run {us : List (SlotUse ι)} {slot : ι} {t : Ticket} :
    t ∈ (run us).issuedBy slot ↔
      ∃ before later, us = before ++ ⟨slot, .issue⟩ :: later ∧ t = (run before).nextTicket slot := by
  induction us using List.reverseRecOn with
  | nil => simp [run, new, issuedBy]
  | append_singleton us u ih =>
    rw [run_concat, issuedBy_after, List.mem_append, ih]
    constructor
    · rintro (⟨before, later, rfl, rfl⟩ | hlast)
      · exact ⟨before, later ++ [u], by rw [List.append_assoc, List.cons_append], rfl⟩
      · split at hlast
        · rename_i hu
          rw [List.mem_singleton] at hlast
          exact ⟨us, [], by rw [hu], hlast⟩
        · cases hlast
    · rintro ⟨before, later, hsplit, rfl⟩
      rcases List.eq_nil_or_concat later with rfl | ⟨later, last, rfl⟩
      · obtain ⟨rfl, hu⟩ := List.append_inj' hsplit rfl
        refine .inr ?_
        rw [if_pos (List.singleton_inj.1 hu)]
        exact List.mem_singleton_self _
      · rw [List.concat_eq_append, ← List.cons_append, ← List.append_assoc] at hsplit
        exact .inl ⟨before, later, (List.append_inj' hsplit rfl).1, rfl⟩

theorem slotUses_append (slot : ι) (us more : List (SlotUse ι)) :
    slotUses slot (us ++ more) = slotUses slot us + slotUses slot more :=
  List.countP_append

theorem slotUses_cons_self (slot : ι) (action : SlotAction) (us : List (SlotUse ι)) :
    slotUses slot (⟨slot, action⟩ :: us) = slotUses slot us + 1 :=
  List.countP_cons_of_pos (by simp)

theorem slotUses_eq_zero_iff {slot : ι} {us : List (SlotUse ι)} : slotUses slot us = 0 ↔ ∀ u ∈ us, u.slot ≠ slot := by
  rw [slotUses, List.countP_eq_zero]
  simp only [decide_eq_true_eq, ne_eq]

/-- A ticket counts for its slot until the slot is used again. -/
theorem finds_nextTicket_iff {before later : List (SlotUse ι)} {slot : ι}
    (h : slotUses slot (before ++ ⟨slot, .issue⟩ :: later) < 2 ^ 64) :
    (run (before ++ ⟨slot, .issue⟩ :: later)).finds slot ((run before).nextTicket slot) = true ↔
      ∀ u ∈ later, u.slot ≠ slot := by
  have hcurrent := RequestSequence.isCurrent_iff_mod
    (latest_run (before ++ ⟨slot, .issue⟩ :: later) slot) (number_nextTicket before slot)
  rw [slotUses_append, slotUses_cons_self] at h hcurrent
  rw [finds, hcurrent, ← slotUses_eq_zero_iff]
  omega

/-- A ticket's number is at most the number of uses by then. -/
theorem number_le_of_mem_issuedBy {us : List (SlotUse ι)} {slot : ι} (h : slotUses slot us < 2 ^ 64) {t : Ticket}
    (ht : t ∈ (run us).issuedBy slot) : t.number.toNat ≤ slotUses slot us := by
  obtain ⟨before, later, rfl, rfl⟩ := mem_issuedBy_run.1 ht
  rw [slotUses_append, slotUses_cons_self] at h ⊢
  rw [number_nextTicket, UInt64.toNat_ofNat', Nat.mod_eq_of_lt (by omega)]
  omega

theorem pairwise_issuedBy_run {us : List (SlotUse ι)} {slot : ι} (h : slotUses slot us < 2 ^ 64) :
    ((run us).issuedBy slot).Pairwise (·.number < ·.number) := by
  induction us using List.reverseRecOn with
  | nil => exact .nil
  | append_singleton us u ih =>
    have hbefore : slotUses slot us < 2 ^ 64 := by
      rw [slotUses_append] at h
      omega
    rw [run_concat, issuedBy_after]
    split
    · rename_i hu
      rw [slotUses_append, hu, slotUses_cons_self] at h
      refine List.pairwise_append.2 ⟨ih hbefore, List.pairwise_singleton _ _, fun t ht next hnext => ?_⟩
      have hle := number_le_of_mem_issuedBy hbefore ht
      rw [List.mem_singleton.1 hnext, UInt64.lt_iff_toNat_lt, number_nextTicket, UInt64.toNat_ofNat',
        Nat.mod_eq_of_lt (by omega)]
      omega
    · rw [List.append_nil]
      exact ih hbefore

/-- No use of other slots matters to a slot. -/
theorem sequence_run_append {us more : List (SlotUse ι)} {slot : ι} (h : ∀ u ∈ more, u.slot ≠ slot) :
    (run (us ++ more)).sequence slot = (run us).sequence slot := by
  induction more using List.reverseRecOn with
  | nil => rw [List.append_nil]
  | append_singleton more u ih =>
    rw [List.forall_mem_append, List.forall_mem_singleton] at h
    rw [← List.append_assoc, run_concat, sequence_after, if_neg h.2, ih h.1]

/-! ## What counts -/

/-- What can be said of the tickets of slots that were used, and of when they count. -/
structure TicketsInOrder (us : List (SlotUse ι)) : Prop where
  /-- A slot's tickets are those that it issued when it was used for that. -/
  issued : ∀ slot t, t ∈ (run us).issuedBy slot ↔
    ∃ before later, us = before ++ ⟨slot, .issue⟩ :: later ∧ t = (run before).nextTicket slot
  /-- Each slot's tickets come in the order of their numbers. -/
  increasing : ∀ slot, ((run us).issuedBy slot).Pairwise (·.number < ·.number)
  distinct : ∀ slot, ((run us).issuedBy slot).Nodup
  /-- A ticket counts for the slot that issued it exactly if that slot has not been used since. -/
  current : ∀ before slot later, us = before ++ ⟨slot, .issue⟩ :: later →
    ((run us).finds slot ((run before).nextTicket slot) = true ↔ ∀ u ∈ later, u.slot ≠ slot)
  atMostOne : ∀ slot, ((run us).issuedBy slot).countP ((run us).finds slot) ≤ 1
  /-- Where a slot voided its tickets and has issued none since, none of them counts. -/
  voided : ∀ before slot later, us = before ++ ⟨slot, .invalidate⟩ :: later → ⟨slot, .issue⟩ ∉ later →
    ∀ t ∈ (run us).issuedBy slot, (run us).finds slot t = false
  /-- A ticket that once did not count does not count later on. -/
  spent : ∀ before later, us = before ++ later → ∀ slot, ∀ t ∈ (run before).issuedBy slot,
    (run before).finds slot t = false → (run us).finds slot t = false
  /-- What counts for a slot, of all tickets that there are, does not change when others are used. -/
  apart : ∀ before later, us = before ++ later → ∀ slot, (∀ u ∈ later, u.slot ≠ slot) →
    ∀ t, (run us).finds slot t = (run before).finds slot t

theorem nodup_of_increasing {ts : List Ticket} (h : ts.Pairwise (·.number < ·.number)) : ts.Nodup := by
  refine h.imp fun {t t'} hlt => ?_
  rintro rfl
  exact UInt64.lt_irrefl _ hlt

omit [DecidableEq ι] in
/-- A slot that voided its tickets and has issued none since did so after it issued any of them. -/
theorem invalidate_mem_later {before before' later later' : List (SlotUse ι)} {slot : ι}
    (hsplit : before ++ ⟨slot, .invalidate⟩ :: later = before' ++ ⟨slot, .issue⟩ :: later')
    (hlater : ⟨slot, .issue⟩ ∉ later) : ⟨slot, .invalidate⟩ ∈ later' := by
  rcases List.append_eq_append_iff.1 hsplit with ⟨between, rfl, hrest⟩ | ⟨between, rfl, hrest⟩
  · cases between with
    | nil => cases hrest
    | cons first between =>
      rw [List.cons_append, List.cons.injEq] at hrest
      exact absurd (hrest.2 ▸ List.mem_append_right _ List.mem_cons_self) hlater
  · cases between with
    | nil => cases hrest
    | cons first between =>
      rw [List.cons_append, List.cons.injEq] at hrest
      exact hrest.2 ▸ List.mem_append_right _ List.mem_cons_self

theorem slotUses_le_length (slot : ι) (us : List (SlotUse ι)) : slotUses slot us ≤ us.length :=
  List.countP_le_length

/-- However many slots are used fewer than 2 ^ 64 times in all, in whatever order, each slot's tickets come in the
order of their numbers, and a ticket counts for its slot exactly until that slot is used again. -/
theorem tickets_in_order (us : List (SlotUse ι)) (h : us.length < 2 ^ 64) : TicketsInOrder us := by
  have huses : ∀ slot, slotUses slot us < 2 ^ 64 := fun slot => Nat.lt_of_le_of_lt (slotUses_le_length slot us) h
  have hdistinct : ∀ slot, ((run us).issuedBy slot).Nodup := fun slot =>
    nodup_of_increasing (pairwise_issuedBy_run (huses slot))
  refine ⟨fun _ _ => mem_issuedBy_run, fun slot => pairwise_issuedBy_run (huses slot), hdistinct,
    ?current, ?atMostOne, ?voided, ?spent, ?apart⟩
  case current =>
    rintro before slot later rfl
    exact finds_nextTicket_iff (huses slot)
  case atMostOne =>
    intro slot
    have hnewest : (run us).finds slot = (· == ((run us).sequence slot).newest) := by
      funext t
      rw [finds, Bool.eq_iff_iff, RequestSequence.isCurrent_iff_eq_newest, beq_iff_eq]
    rw [hnewest]
    exact List.nodup_iff_count.1 (hdistinct slot) _
  case voided =>
    rintro before slot later hus hlater t ht
    obtain ⟨before', later', hus', rfl⟩ := mem_issuedBy_run.1 ht
    have hmem := invalidate_mem_later (hus.symm.trans hus') hlater
    subst hus'
    rw [Bool.eq_false_iff, ne_eq, finds_nextTicket_iff (huses slot)]
    exact fun hnone => hnone _ hmem rfl
  case spent =>
    rintro before later rfl slot t ht hfinds
    obtain ⟨before', later', rfl, rfl⟩ := mem_issuedBy_run.1 ht
    have hall := huses slot
    have hpart := hall
    rw [slotUses_append] at hpart
    rw [List.append_assoc, List.cons_append] at hall ⊢
    rw [Bool.eq_false_iff, ne_eq, finds_nextTicket_iff (by omega)] at hfinds
    rw [Bool.eq_false_iff, ne_eq, finds_nextTicket_iff hall]
    exact fun hnone => hfinds fun u hu => hnone u (List.mem_append_left _ hu)
  case apart =>
    rintro before later rfl slot hlater t
    rw [finds, sequence_run_append hlater, finds]

/-- Two slots give tickets of the same number, one voids its own, and both go on. -/
theorem tickets_in_order_of_two_slots :
    let us : List (SlotUse Bool) := [⟨true, .issue⟩, ⟨false, .issue⟩, ⟨true, .issue⟩, ⟨false, .invalidate⟩,
      ⟨true, .issue⟩, ⟨true, .invalidate⟩, ⟨false, .issue⟩]
    us.length < 2 ^ 64 ∧ TicketsInOrder us ∧
      ((run us).issuedBy true).map (·.number) = [1, 2, 3] ∧ ((run us).issuedBy false).map (·.number) = [1, 3] ∧
      ((run us).issuedBy true).map ((run us).finds true) = [false, false, false] ∧
      ((run us).issuedBy false).map ((run us).finds false) = [false, true] := by
  intro us
  have h : us.length < 2 ^ 64 := by decide
  exact ⟨h, tickets_in_order us h, by decide +kernel⟩

end Slots

end OrgConsole
