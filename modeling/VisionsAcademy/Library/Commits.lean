import VisionsAcademy.Library.Entries

/-! Keyed writes that are issued in one order and committed in another. A commit
replaces the entry of its key, so whether a write survives depends on the keys and
not on the order: `settled_perm` gives the exact condition. -/
namespace Commits
open Entries

variable {Key Value : Type*} [DecidableEq Key]

/-- `entries` holds the issued writes except the pending ones, in some order of commits. -/
def Accounted (entries pending issued : List (Key × Value)) : Prop :=
  ∃ committed, entries = assignAll committed [] ∧ (committed ++ pending).Perm issued

theorem accounted_start : Accounted ([] : List (Key × Value)) [] [] := ⟨[],rfl,List.Perm.nil⟩

theorem accounted_pending (entries pending rest issued : List (Key × Value))
    (accounted : Accounted entries pending issued) (same : pending.Perm rest) :
    Accounted entries rest issued := by
  obtain ⟨committed,stored,perm⟩ := accounted
  exact ⟨committed,stored,(same.symm.append_left committed).trans perm⟩

theorem accounted_issue (entries pending issued writes : List (Key × Value))
    (accounted : Accounted entries pending issued) :
    Accounted entries (pending ++ writes) (issued ++ writes) := by
  obtain ⟨committed,stored,perm⟩ := accounted
  refine ⟨committed,stored,?_⟩
  rw [← List.append_assoc]
  exact perm.append_right writes

theorem accounted_commit (entries pending rest issued : List (Key × Value)) (write : Key × Value)
    (accounted : Accounted entries pending issued) (taken : pending.Perm (write::rest)) :
    Accounted (assign write.1 write.2 entries) rest issued := by
  obtain ⟨committed,same,perm⟩ := accounted
  refine ⟨committed ++ [write],?_,?_⟩
  · rw [assignAll_append,← same]
    rfl
  · rw [List.append_assoc]
    exact (taken.symm.append_left committed).trans perm

theorem accounted_distinct (entries pending issued committed : List (Key × Value))
    (accounted : Accounted entries pending issued) (made : (committed ++ pending).Perm issued)
    (distinct : (committed.map Prod.fst).Nodup) : entries.Perm committed := by
  obtain ⟨order,same,perm⟩ := accounted
  have rearranged : order.Perm committed :=
    (List.perm_append_right_iff pending).mp (perm.trans made.symm)
  have keys := (rearranged.map Prod.fst).nodup_iff.mpr distinct
  have kept : entries = order := by
    rw [same,assignAll_fresh order [] (by simpa using keys),List.nil_append]
  rw [kept]
  exact rearranged

theorem settled_perm {Content : Type*} (content : Value → Content)
    (entries issued : List (Key × Value)) (accounted : Accounted entries [] issued) :
    (entries.map fun entry => content entry.2).Perm (issued.map fun write => content write.2) ↔
      (issued.map Prod.fst).Nodup := by
  constructor
  · intro values
    obtain ⟨committed,same,perm⟩ := accounted
    rw [List.append_nil] at perm
    have lengths := values.length_eq
    rw [List.length_map,List.length_map,← perm.length_eq,same] at lengths
    rw [← (perm.map Prod.fst).nodup_iff]
    simpa [lengths] using length_assignAll committed [] List.nodup_nil
  · intro distinct
    have made : (issued ++ []).Perm issued := by rw [List.append_nil]
    exact (accounted_distinct entries [] issued issued accounted made distinct).map _

end Commits
