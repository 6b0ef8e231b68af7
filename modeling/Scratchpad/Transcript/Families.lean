import Mathlib.Logic.Relation
import Scratchpad.Transcript.Handles

/-!
# Families of handles

A history lists operations on handles with the latest first, and begins with no handle at all. The
handles are numbered in the order of their making, and two of them are of one family if one comes
from the other by cloning, whatever clones lie between them. What a family was told is read off the
history: the writes through any of its handles in their order, those before a clone was made
included. A sink is a handle of its own, cloned from the one that it was made from, through which
nothing but lines of one stream are written.
-/
namespace Scratchpad.Handles

open Transcript (Write)

/-- No handles at all. -/
def empty : Handles := ⟨#[], #[]⟩

/-- The handles after a history. -/
def after : List Step → Handles
  | [] => empty
  | latest :: earlier => (after earlier).step latest

/-- The number of handles that a history made. -/
def made : List Step → Nat
  | [] => 0
  | .make :: earlier => made earlier + 1
  | .clone handle :: earlier => if handle < made earlier then made earlier + 1 else made earlier
  | .write _ _ :: earlier => made earlier

/-- A handle was made by cloning another one. -/
inductive Cloned : List Step → Nat → Nat → Prop where
  | latest {earlier : List Step} {handle : Nat} (known : handle < made earlier) :
      Cloned (.clone handle :: earlier) (made earlier) handle
  | before {latest : Step} {earlier : List Step} {clone handle : Nat}
      (cloned : Cloned earlier clone handle) : Cloned (latest :: earlier) clone handle

/-- Two handles are of one family. -/
def Family (history : List Step) : Nat → Nat → Prop := Relation.EqvGen (Cloned history)

/-- What was written through those handles that are in a set, in order. -/
def writesThrough (members : Nat → Prop) [DecidablePred members] : List Step → List Write
  | [] => []
  | .write handle write :: earlier =>
    if handle < made earlier ∧ members handle then writesThrough members earlier ++ [write]
    else writesThrough members earlier
  | .make :: earlier | .clone _ :: earlier => writesThrough members earlier

/-! ## What one operation leaves -/

/-- A handle names a transcript exactly if it was made. -/
theorem exists_owner_iff {handles : Handles} {handle : Nat} :
    (∃ owner, handles.owner? handle = some owner) ↔ handle < handles.owners.size := by
  rw [← Option.isSome_iff_exists, owner?]
  exact Iff.of_eq (isSome_getElem? handles.owners handle)

/-- A handle that names no transcript was not made. -/
theorem size_le_of_unowned {handles : Handles} {handle : Nat}
    (unowned : handles.owner? handle = none) : handles.owners.size ≤ handle :=
  Array.getElem?_eq_none_iff.mp unowned

/-- There are as many handles as a history made. -/
theorem size_owners (history : List Step) : (after history).owners.size = made history := by
  induction history with
  | nil => rfl
  | cons latest earlier ih =>
    cases latest with
    | make => exact (Array.size_push _).trans (congrArg (· + 1) ih)
    | clone handle =>
      rw [after, step, made]
      cases owned : (after earlier).owner? handle with
      | none =>
        have unknown : ¬ handle < made earlier := by
          rw [← ih]
          exact Nat.not_lt.mpr (size_le_of_unowned owned)
        rw [if_neg unknown]
        exact ih
      | some owner =>
        have known : handle < made earlier := by
          rw [← ih]
          exact exists_owner_iff.mp ⟨owner, owned⟩
        rw [if_pos known]
        exact (Array.size_push _).trans (congrArg (· + 1) ih)
    | write handle write =>
      rw [after, step, made]
      cases (after earlier).owner? handle <;> exact ih

/-- A handle that was made names a transcript. -/
theorem exists_owner {history : List Step} {handle : Nat} (known : handle < made history) :
    ∃ owner, (after history).owner? handle = some owner := by
  rw [← size_owners] at known
  exact exists_owner_iff.mpr known

/-- A handle that names a transcript was made. -/
theorem known_of_owner {history : List Step} {handle owner : Nat}
    (owned : (after history).owner? handle = some owner) : handle < made history := by
  rw [← size_owners]
  exact exists_owner_iff.mp ⟨owner, owned⟩

/-- A handle that names no transcript is not known. -/
theorem unknown_of_unowned {history : List Step} {handle : Nat}
    (unowned : (after history).owner? handle = none) : ¬ handle < made history := by
  rw [← size_owners]
  exact Nat.not_lt.mpr (size_le_of_unowned unowned)

/-- What an operation does: it makes a handle on a transcript of its own, makes one on the
transcript of a handle, writes to the transcript of a handle, or does nothing, as it is on a handle
that was not made. -/
theorem after_cases (latest : Step) (earlier : List Step) :
    (latest = .make ∧ made (latest :: earlier) = made earlier + 1 ∧
      after (latest :: earlier) = {
        transcripts := (after earlier).transcripts.push ""
        owners := (after earlier).owners.push (after earlier).transcripts.size }) ∨
    (∃ handle owner, latest = .clone handle ∧ (after earlier).owner? handle = some owner ∧
      made (latest :: earlier) = made earlier + 1 ∧
      after (latest :: earlier) =
        { after earlier with owners := (after earlier).owners.push owner }) ∨
    (∃ handle owner write, latest = .write handle write ∧
      (after earlier).owner? handle = some owner ∧ made (latest :: earlier) = made earlier ∧
      after (latest :: earlier) = { after earlier with
        transcripts := (after earlier).transcripts.modify owner (·.write write) }) ∨
    ((∀ handle write, latest = .write handle write → ¬ handle < made earlier) ∧
      made (latest :: earlier) = made earlier ∧ after (latest :: earlier) = after earlier) := by
  cases latest with
  | make => exact .inl ⟨rfl, rfl, rfl⟩
  | clone handle =>
    cases owned : (after earlier).owner? handle with
    | some owner =>
      exact .inr (.inl ⟨handle, owner, rfl, owned, if_pos (known_of_owner owned),
        by rw [after, step, owned]⟩)
    | none =>
      have unknown := unknown_of_unowned owned
      exact .inr (.inr (.inr ⟨nofun, if_neg unknown, by rw [after, step, owned]⟩))
  | write handle write =>
    cases owned : (after earlier).owner? handle with
    | some owner =>
      exact .inr (.inr (.inl ⟨handle, owner, write, rfl, owned, rfl, by rw [after, step, owned]⟩))
    | none =>
      refine .inr (.inr (.inr ⟨?_, rfl, by rw [after, step, owned]⟩))
      rintro _ _ ⟨⟩
      exact unknown_of_unowned owned

/-- An operation makes one handle or none. -/
theorem made_cons (latest : Step) (earlier : List Step) :
    made (latest :: earlier) = made earlier ∨ made (latest :: earlier) = made earlier + 1 := by
  obtain ⟨-, more, -⟩ | ⟨_, _, -, -, more, -⟩ | ⟨_, _, _, -, -, same, -⟩ | ⟨-, same, -⟩ :=
    after_cases latest earlier
  · exact .inr more
  · exact .inr more
  · exact .inl same
  · exact .inl same

/-- The transcript of a handle after one more handle was made. -/
theorem owner?_push (transcripts : Array Transcript) (history : List Step) (owner handle : Nat) :
    owner? { transcripts, owners := (after history).owners.push owner } handle =
      if handle = made history then some owner else (after history).owner? handle := by
  rw [owner?, owner?, Array.getElem?_push, size_owners]

/-- A handle names the same transcript for ever. -/
theorem owner?_cons {latest : Step} {earlier : List Step} {handle owner : Nat}
    (owned : (after earlier).owner? handle = some owner) :
    (after (latest :: earlier)).owner? handle = some owner := by
  have old : handle ≠ made earlier := Nat.ne_of_lt (known_of_owner owned)
  obtain ⟨-, -, last⟩ | ⟨_, _, -, -, -, last⟩ | ⟨_, _, _, -, -, -, last⟩ | ⟨-, -, last⟩ :=
    after_cases latest earlier
  · rw [last, owner?_push, if_neg old, owned]
  · rw [last, owner?_push, if_neg old, owned]
  · rw [last]
    exact owned
  · rw [last, owned]

/-- A handle names one of the transcripts. -/
theorem owner_lt {history : List Step} {handle owner : Nat}
    (owned : (after history).owner? handle = some owner) :
    owner < (after history).transcripts.size := by
  induction history generalizing handle owner with
  | nil => cases owned
  | cons latest earlier ih =>
    obtain ⟨-, -, last⟩ | ⟨_, _, -, cloned, -, last⟩ | ⟨_, _, _, -, -, -, last⟩ | ⟨-, -, last⟩ :=
      after_cases latest earlier
    · rw [last, owner?_push] at owned
      rw [last, Array.size_push]
      split at owned
      · rw [← Option.some.inj owned]
        exact Nat.lt_succ_self _
      · exact Nat.lt_succ_of_lt (ih owned)
    · rw [last, owner?_push] at owned
      rw [last]
      split at owned
      · rw [← Option.some.inj owned]
        exact ih cloned
      · exact ih owned
    · rw [last, Array.size_modify]
      rw [last] at owned
      exact ih owned
    · rw [last] at owned ⊢
      exact ih owned

/-! ## Families and transcripts -/

/-- Families only grow. -/
theorem Family.cons {earlier : List Step} {one other : Nat} (family : Family earlier one other)
    (latest : Step) : Family (latest :: earlier) one other :=
  Relation.EqvGen.mono (fun _ _ => Cloned.before) _ _ family

/-- A clone names the transcript of the handle that it was made from. -/
theorem Cloned.owner {history : List Step} {clone handle : Nat}
    (cloned : Cloned history clone handle) : ∃ owner,
      (after history).owner? clone = some owner ∧ (after history).owner? handle = some owner := by
  induction cloned with
  | @latest earlier handle known =>
    obtain ⟨owner, owned⟩ := exists_owner known
    have last : after (.clone handle :: earlier) =
        { after earlier with owners := (after earlier).owners.push owner } := by
      rw [after, step, owned]
    refine ⟨owner, ?_, owner?_cons owned⟩
    rw [last, owner?_push, if_pos rfl]
  | before cloned ih =>
    obtain ⟨owner, first, second⟩ := ih
    exact ⟨owner, owner?_cons first, owner?_cons second⟩

/-- Handles of one family name the same transcript. -/
theorem Family.owner?_eq {history : List Step} {one other : Nat}
    (family : Family history one other) :
    (after history).owner? one = (after history).owner? other := by
  induction family with
  | rel one other cloned =>
    obtain ⟨owner, first, second⟩ := cloned.owner
    rw [first, second]
  | refl one => rfl
  | symm one other _ ih => exact ih.symm
  | trans one middle other _ _ first second => exact first.trans second

/-- Handles of one family are the same or were both made. -/
theorem Family.eq_or_known {history : List Step} {one other : Nat}
    (family : Family history one other) :
    one = other ∨ one < made history ∧ other < made history := by
  induction family with
  | rel one other cloned =>
    obtain ⟨owner, first, second⟩ := cloned.owner
    exact .inr ⟨known_of_owner first, known_of_owner second⟩
  | refl one => exact .inl rfl
  | symm one other _ ih => exact ih.imp Eq.symm And.symm
  | trans one middle other _ _ first second =>
    obtain rfl | ⟨known, between⟩ := first
    · exact second
    · obtain rfl | ⟨-, known'⟩ := second
      · exact .inr ⟨known, between⟩
      · exact .inr ⟨known, known'⟩

/-- A handle that was made by the latest operation comes after all others. -/
theorem old_or_newest {latest : Step} {earlier : List Step} {handle : Nat}
    (known : handle < made (latest :: earlier)) : handle < made earlier ∨
      handle = made earlier ∧ made (latest :: earlier) = made earlier + 1 := by
  obtain same | more := made_cons latest earlier
  · rw [same] at known
    exact .inl known
  · rw [more, Nat.lt_succ_iff_lt_or_eq] at known
    exact known.imp_right fun newest => ⟨newest, more⟩

/-- A handle that was made before names what it named then. -/
theorem owner?_of_old {latest : Step} {earlier : List Step} {handle : Nat}
    (old : handle < made earlier) :
    (after (latest :: earlier)).owner? handle = (after earlier).owner? handle := by
  obtain ⟨owner, owned⟩ := exists_owner old
  rw [owned, owner?_cons owned]

/-- A handle that was just made is of the family of every handle with the same transcript. -/
theorem family_newest {latest : Step} {earlier : List Step} {other owner : Nat}
    (more : made (latest :: earlier) = made earlier + 1)
    (alike : ∀ {one : Nat}, (after earlier).owner? one = some owner → Family earlier one other)
    (newest : (after (latest :: earlier)).owner? (made earlier) = some owner)
    (owned : (after earlier).owner? other = some owner) :
    Family (latest :: earlier) (made earlier) other := by
  obtain ⟨-, -, last⟩ | ⟨handle, _, rfl, cloned, -, last⟩ | ⟨_, _, _, -, -, same, -⟩ |
    ⟨-, same, -⟩ := after_cases latest earlier
  -- A new transcript is named by no other handle; a clone is of the family of its original.
  · rw [last, owner?_push, if_pos rfl] at newest
    cases newest
    exact absurd (owner_lt owned) (Nat.lt_irrefl _)
  · rw [last, owner?_push, if_pos rfl] at newest
    cases newest
    have made : Cloned (.clone handle :: earlier) (made earlier) handle :=
      .latest (known_of_owner cloned)
    exact .trans _ _ _ (.rel _ _ made) ((alike cloned).cons _)
  · omega
  · omega

/-- Handles that name the same transcript are of one family. -/
theorem family_of_owner {history : List Step} {one other owner : Nat}
    (first : (after history).owner? one = some owner)
    (second : (after history).owner? other = some owner) : Family history one other := by
  induction history generalizing one other with
  | nil => cases first
  | cons latest earlier ih =>
    obtain old | ⟨rfl, more⟩ := old_or_newest (known_of_owner first)
    · have before : (after earlier).owner? one = some owner := owner?_of_old old ▸ first
      obtain old' | ⟨rfl, more⟩ := old_or_newest (known_of_owner second)
      · have before' : (after earlier).owner? other = some owner := owner?_of_old old' ▸ second
        exact (ih before before').cons latest
      · exact .symm _ _ (family_newest more (fun owned => ih owned before) second before)
    · obtain old' | ⟨rfl, -⟩ := old_or_newest (known_of_owner second)
      · have before' : (after earlier).owner? other = some owner := owner?_of_old old' ▸ second
        exact family_newest more (fun owned => ih owned before') first before'
      · exact .refl _

/-- Two handles are of one family exactly if they are the same or name the same transcript. -/
theorem family_iff {history : List Step} {one other : Nat} : Family history one other ↔
    one = other ∨ one < made history ∧
      (after history).owner? one = (after history).owner? other := by
  constructor
  · exact fun family => family.eq_or_known.imp_right fun known => ⟨known.1, family.owner?_eq⟩
  · rintro (rfl | ⟨known, same⟩)
    · exact .refl _
    · obtain ⟨owner, owned⟩ := exists_owner known
      exact family_of_owner owned (same ▸ owned)

instance (history : List Step) (one other : Nat) : Decidable (Family history one other) :=
  decidable_of_iff _ family_iff.symm

/-- What was written through the handles of the family of a handle, in order. -/
def familyWrites (history : List Step) (handle : Nat) : List Write :=
  writesThrough (Family history handle) history

end Scratchpad.Handles
