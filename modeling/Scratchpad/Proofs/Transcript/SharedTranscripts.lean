import Scratchpad.Transcript.Families

/-!
# One transcript for each family of handles

The handles of a family name one transcript, and no other handle names it. So the text seen through
a handle is what the writes through its family make of an empty text, in the order in which they
were made, whichever handle each of them went through; and what is done through a handle of one
family is seen through none of another.
-/
namespace Scratchpad.Handles

open Transcript (Write)

/-- No handle is ever lost. -/
theorem made_le (latest : Step) (earlier : List Step) :
    made earlier ≤ made (latest :: earlier) := by
  obtain same | more := made_cons latest earlier <;> omega

section Writes

variable {members others : Nat → Prop} [DecidablePred members] [DecidablePred others]

/-- Only a write to a member that was made before adds to what was written. -/
theorem writesThrough_cons_of_foreign {latest : Step} {earlier : List Step}
    (foreign : ∀ handle write, latest = .write handle write → handle < made earlier →
      ¬ members handle) :
    writesThrough members (latest :: earlier) = writesThrough members earlier := by
  cases latest with
  | make => rfl
  | clone handle => rfl
  | write handle write => exact if_neg fun known => foreign handle write rfl known.1 known.2

/-- A write to a member that was made before comes after what was written before. -/
theorem writesThrough_cons {earlier : List Step} {handle : Nat} (known : handle < made earlier)
    (member : members handle) (write : Write) :
    writesThrough members (.write handle write :: earlier) =
      writesThrough members earlier ++ [write] := if_pos ⟨known, member⟩

/-- What was written through handles depends on those of them that were made. -/
theorem writesThrough_congr {history : List Step}
    (same : ∀ handle < made history, members handle ↔ others handle) :
    writesThrough members history = writesThrough others history := by
  induction history with
  | nil => rfl
  | cons latest earlier ih =>
    have before := ih fun handle known =>
      same handle (Nat.lt_of_lt_of_le known (made_le latest earlier))
    cases latest with
    | make => exact before
    | clone handle => exact before
    | write handle write =>
      have alike : handle < made earlier ∧ members handle ↔ handle < made earlier ∧ others handle :=
        and_congr_right (same handle)
      simp only [writesThrough, before, alike]

/-- Nothing was written through handles of which none was made. -/
theorem writesThrough_of_unmade {history : List Step}
    (unmade : ∀ handle < made history, ¬ members handle) : writesThrough members history = [] := by
  induction history with
  | nil => rfl
  | cons latest earlier ih =>
    have before (handle : Nat) (known : handle < made earlier) : ¬ members handle :=
      unmade handle (Nat.lt_of_lt_of_le known (made_le latest earlier))
    rw [writesThrough_cons_of_foreign fun handle _ _ known => before handle known]
    exact ih before

end Writes

/-- The handles of a history that name a transcript. -/
def Owned (history : List Step) (owner handle : Nat) : Prop :=
  (after history).owner? handle = some owner

instance (history : List Step) (owner : Nat) : DecidablePred (Owned history owner) :=
  fun _ => inferInstanceAs (Decidable (_ = _))

/-- One more operation leaves what the handles made before it own. -/
theorem owned_cons {latest : Step} {earlier : List Step} (owner : Nat) :
    ∀ handle < made earlier, Owned (latest :: earlier) owner handle ↔ Owned earlier owner handle :=
  fun handle old => by rw [Owned, Owned, owner?_of_old old]

/-- A transcript holds what was written through the handles that name it. -/
theorem transcript_eq (history : List Step) {owner : Nat}
    (inside : owner < (after history).transcripts.size) :
    (after history).transcripts[owner]? =
      some (Transcript.writeAll "" (writesThrough (Owned history owner) history)) := by
  induction history with
  | nil => cases inside
  | cons latest earlier ih =>
    -- What was written before went through handles that own now what they owned then.
    have kept : writesThrough (Owned (latest :: earlier) owner) earlier =
        writesThrough (Owned earlier owner) earlier := writesThrough_congr (owned_cons owner)
    obtain ⟨rfl, -, last⟩ | ⟨handle, _, rfl, -, -, last⟩ |
      ⟨handle, named, write, rfl, owned, -, last⟩ | ⟨unknown, -, last⟩ :=
      after_cases latest earlier
    · rw [last, Array.size_push] at inside
      rw [writesThrough, kept, last, Array.getElem?_push]
      split
      · next new =>
        have unmade : ∀ handle < made earlier, ¬ Owned earlier owner handle :=
          fun handle _ owned => Nat.lt_irrefl _ (new ▸ owner_lt owned)
        rw [writesThrough_of_unmade unmade]
        rfl
      · exact ih (by omega)
    · rw [last] at inside
      rw [writesThrough, kept, last]
      exact ih inside
    · rw [last, Array.size_modify] at inside
      have before := ih inside
      rw [last, Array.getElem?_modify]
      by_cases same : named = owner
      · subst same
        have member : Owned (.write handle write :: earlier) named handle := owner?_cons owned
        rw [if_pos rfl, before, writesThrough_cons (known_of_owner owned) member, kept,
          Transcript.writeAll_append]
        rfl
      · have foreign : ¬ Owned (.write handle write :: earlier) owner handle := fun member =>
          same (Option.some.inj ((owner?_cons owned).symm.trans member))
        rw [if_neg same, before, writesThrough_cons_of_foreign, kept]
        rintro _ _ ⟨⟩ -
        exact foreign
    · rw [last] at inside
      rw [writesThrough_cons_of_foreign, kept, last]
      · exact ih inside
      · exact fun handle write wrote known => absurd known (unknown handle write wrote)

/-- The text seen through a handle that was made is what the writes through its family make of an
empty text. -/
theorem text?_after {history : List Step} {handle : Nat} (known : handle < made history) :
    (after history).text? handle =
      some (Transcript.writeAll "" (familyWrites history handle)) := by
  obtain ⟨owner, owned⟩ := exists_owner known
  have members : ∀ other < made history, Family history handle other ↔
      Owned history owner other := by
    intro other made
    rw [family_iff, Owned, ← owned]
    constructor
    · rintro (rfl | ⟨-, same⟩)
      · rfl
      · exact same.symm
    · exact fun same => .inr ⟨known, same.symm⟩
  rw [text?, owned, familyWrites, writesThrough_congr members]
  exact transcript_eq history (owner_lt owned)

/-- Handles that were made before are of one family exactly if they were of one family then. -/
theorem family_cons_iff {latest : Step} {earlier : List Step} {one other : Nat}
    (known : one < made earlier) (known' : other < made earlier) :
    Family (latest :: earlier) one other ↔ Family earlier one other := by
  have still : one < made (latest :: earlier) := Nat.lt_of_lt_of_le known (made_le latest earlier)
  rw [family_iff, family_iff, owner?_of_old known, owner?_of_old known', and_iff_right still,
    and_iff_right known]

/-- A write through a handle of a family comes after what the family was told before. -/
theorem familyWrites_write {earlier : List Step} {handle other : Nat} (known : other < made earlier)
    (family : Family earlier handle other) (write : Write) :
    familyWrites (.write handle write :: earlier) other =
      familyWrites earlier other ++ [write] := by
  have made : handle < made earlier := by
    obtain rfl | ⟨made, -⟩ := family.eq_or_known
    · exact known
    · exact made
  have member : Family (.write handle write :: earlier) other handle :=
    (family_cons_iff known made).mpr (.symm _ _ family)
  rw [familyWrites, writesThrough_cons made member, familyWrites]
  exact congrArg (· ++ [write])
    (writesThrough_congr fun third made => family_cons_iff known made)

/-- Any other operation tells a family nothing. -/
theorem familyWrites_cons_of_foreign {latest : Step} {earlier : List Step} {other : Nat}
    (known : other < made earlier)
    (foreign : ∀ handle write, latest = .write handle write → ¬ Family earlier handle other) :
    familyWrites (latest :: earlier) other = familyWrites earlier other := by
  rw [familyWrites, writesThrough_cons_of_foreign, familyWrites]
  · exact writesThrough_congr fun third made => family_cons_iff known made
  · intro handle write wrote made family
    exact foreign handle write wrote (.symm _ _ ((family_cons_iff known made).mp family))

/-- A write through a handle of a family is seen through every handle of it. -/
theorem text?_write {earlier : List Step} {handle other : Nat} (known : other < made earlier)
    (family : Family earlier handle other) (write : Write) :
    (after (.write handle write :: earlier)).text? other =
      ((after earlier).text? other).map (·.write write) := by
  have still : other < made (.write handle write :: earlier) := known
  rw [text?_after still, text?_after known, familyWrites_write known family,
    Transcript.writeAll_append]
  rfl

/-- Any other operation changes nothing that is seen through a handle. -/
theorem text?_cons_of_foreign {latest : Step} {earlier : List Step} {other : Nat}
    (known : other < made earlier)
    (foreign : ∀ handle write, latest = .write handle write → ¬ Family earlier handle other) :
    (after (latest :: earlier)).text? other = (after earlier).text? other := by
  have still : other < made (latest :: earlier) := Nat.lt_of_lt_of_le known (made_le latest earlier)
  rw [text?_after still, text?_after known, familyWrites_cons_of_foreign known foreign]

/-- All texts that are seen, in the order in which the handles were made. -/
theorem texts_after (history : List Step) : (after history).texts =
    (List.range (made history)).map fun handle =>
      Transcript.writeAll "" (familyWrites history handle) := by
  apply List.ext_getElem
  · rw [texts, List.length_map, Array.length_toList, size_owners, List.length_map,
      List.length_range]
  · intro handle inside _
    have known : handle < made history := by
      rwa [texts, List.length_map, Array.length_toList, size_owners] at inside
    obtain ⟨owner, owned⟩ := exists_owner known
    have seen := text?_after known
    rw [text?, owned] at seen
    obtain ⟨size, names⟩ := Array.getElem?_eq_some_iff.mp owned
    simp only [texts, List.getElem_map, Array.getElem_toList, List.getElem_range, names]
    exact congrArg (·.getD "") seen

/-- What is seen through handles after a history. -/
structure OneTextPerFamily (history : List Step) : Prop where
  /-- A handle shows what the writes through its family make of an empty text. -/
  shown : ∀ handle < made history,
    (after history).text? handle =
        some (Transcript.writeAll "" (familyWrites history handle)) ∧
      (after history).length? handle =
        some (Transcript.writeAll "" (familyWrites history handle)).utf8ByteSize ∧
      (after history).isEmpty? handle =
        some (decide (Transcript.writeAll "" (familyWrites history handle) = ""))
  /-- Nothing tells the handles of a family apart. -/
  alike : ∀ one other, Family history one other →
    (after history).text? one = (after history).text? other ∧
      (after history).length? one = (after history).length? other ∧
      (after history).isEmpty? one = (after history).isEmpty? other
  listed : (after history).texts = (List.range (made history)).map fun handle =>
    Transcript.writeAll "" (familyWrites history handle)
  /-- A line of the output stream is added with its end. -/
  outputLine : ∀ handle, ∀ other < made history, Family history handle other → ∀ line,
    (after (.write handle (.output line) :: history)).text? other =
      ((after history).text? other).map (· ++ line ++ "\n")
  /-- A line of the error stream is added with its mark and its end. -/
  errorLine : ∀ handle, ∀ other < made history, Family history handle other → ∀ line,
    (after (.write handle (.error line) :: history)).text? other =
      ((after history).text? other).map (· ++ "Error: " ++ line ++ "\n")
  /-- What is no write through a family changes nothing that the family shows. -/
  apart : ∀ latest, ∀ other < made history,
    (∀ handle write, latest = .write handle write → ¬ Family history handle other) →
    (after (latest :: history)).text? other = (after history).text? other

/-- After every history, the handles that come from one another by cloning show one text, which is
what was written through any of them in order, and no operation on another family changes it. -/
theorem families_share_transcripts (history : List Step) : OneTextPerFamily history where
  shown handle known := by
    have seen := text?_after known
    refine ⟨seen, ?_, ?_⟩
    · rw [length?, seen, Option.map_some]
    · rw [isEmpty?, seen, Option.map_some, Option.some.injEq, Bool.eq_iff_iff, decide_eq_true_iff]
      exact String.isEmpty_iff
  alike one other family := by
    have same : (after history).text? one = (after history).text? other := by
      rw [text?, text?, family.owner?_eq]
    rw [length?, length?, isEmpty?, isEmpty?, same]
    exact ⟨rfl, rfl, rfl⟩
  listed := texts_after history
  outputLine _ _ known family line := text?_write known family (.output line)
  errorLine _ _ known family line := text?_write known family (.error line)
  apart _ _ known foreign := text?_cons_of_foreign known foreign

/-- A handle, a clone of it and one of another family: what was written before the clone was made is
seen through it, what is written through it is seen through the first, and the third is left. -/
example :
    (after [.write 1 (.error "late"), .make, .clone 0, .write 0 (.output "early"), .make]).texts =
      ["early\nError: late\n", "early\nError: late\n", ""] := by
  decide

end Scratchpad.Handles
