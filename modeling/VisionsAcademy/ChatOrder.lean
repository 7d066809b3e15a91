import Mathlib.Data.List.Sort
import VisionsAcademy.Library.Numerals
import VisionsAcademy.ChatDelivery

/-! The order in which ChatScreen shows a conversation. Its query has no orderBy, so the
documents come in ascending order of their ids, which are clock readings as texts. -/
namespace VisionsAcademy.ChatOrder
open Chat ChatDelivery Commits Numerals

variable {Device Document : Type}

def docs (entries : List (String × Write Document)) : List (String × Write Document) :=
  entries.insertionSort fun first second => first.1 ≤ second.1

def items (state : State Device Document) (uid : String) : List (Write Document) :=
  (docs (state.msgs uid)).map Prod.snd

def messages (state : State Device Document) (uid : String) : List ChatMessage :=
  (items state uid).map Write.message

def pendingTo (state : State Device Document) (uid : String) : List (Write Document) :=
  state.pending.filter fun write => write.uid = uid

theorem docs_perm (entries : List (String × Write Document)) : (docs entries).Perm entries :=
  List.perm_insertionSort _ entries

theorem docs_ascending (entries : List (String × Write Document))
    (distinct : (entries.map Prod.fst).Nodup) :
    (docs entries).Pairwise fun first second => first.1 < second.1 := by
  have sorted : (docs entries).Pairwise fun first second => first.1 ≤ second.1 :=
    List.pairwise_insertionSort _ entries
  have keys : ((docs entries).map Prod.fst).Nodup :=
    ((docs_perm entries).map Prod.fst).nodup_iff.mpr distinct
  have different := List.pairwise_map.mp keys
  exact (sorted.and different).imp fun both => lt_of_le_of_ne both.1 both.2

theorem docs_chronological (digits : Nat) (entries : List (String × Write Document))
    (distinct : (entries.map Prod.fst).Nodup)
    (named : ∀ entry ∈ entries, entry.1 = entry.2.id ∧
      OfLength digits entry.2.millisecondsSinceEpoch) :
    (docs entries).Pairwise fun first second =>
      first.2.millisecondsSinceEpoch < second.2.millisecondsSinceEpoch := by
  apply (docs_ascending entries distinct).imp_of_mem
  intro first second one other less
  obtain ⟨firstId,firstLength⟩ := named first ((docs_perm entries).mem_iff.mp one)
  obtain ⟨secondId,secondLength⟩ := named second ((docs_perm entries).mem_iff.mp other)
  rw [firstId,secondId] at less
  exact (toString_lt_iff digits _ _ firstLength secondLength).mp less

/-- The writes into a conversation that have committed, replaced ones included. -/
def Stored (state : State Device Document) (uid : String) (writes : List (Write Document)) : Prop :=
  (writes ++ pendingTo state uid).Perm (sentTo state uid)

theorem stored_entries [DecidableEq Device] (labels : List (Label Device Document))
    (final : State Device Document) (reached : Runs.run step initial labels = some final)
    (uid : String) (stored : List (Write Document)) (all : Stored final uid stored)
    (distinct : (stored.map Write.millisecondsSinceEpoch).Nodup) :
    (final.msgs uid).Perm (stored.map fun write => (write.id,write)) := by
  apply accounted_distinct _ _ _ _ (run_delivered labels final reached uid)
  · have issued := all.map fun write => (write.id,write)
    rw [List.map_append] at issued
    exact issued
  · exact (ids_nodup stored).mpr distinct

theorem run_chronological [DecidableEq Device] (labels : List (Label Device Document))
    (final : State Device Document) (reached : Runs.run step initial labels = some final)
    (uid : String) (stored : List (Write Document)) (all : Stored final uid stored)
    (distinct : (stored.map Write.millisecondsSinceEpoch).Nodup)
    (ranged : ∀ write ∈ stored,
      10 ^ 12 ≤ write.millisecondsSinceEpoch ∧ write.millisecondsSinceEpoch ≤ 10 ^ 13 - 1) :
    ∃ writes : List (Write Document), messages final uid = writes.map Write.message ∧
      writes.Pairwise (fun first second =>
        first.millisecondsSinceEpoch < second.millisecondsSinceEpoch) ∧ writes.Perm stored := by
  have entries := stored_entries labels final reached uid stored all distinct
  refine ⟨items final uid,rfl,?_,?_⟩
  · rw [items,List.pairwise_map]
    apply docs_chronological 12
    · exact (entries.map Prod.fst).nodup_iff.mpr ((ids_nodup stored).mpr distinct)
    · intro entry member
      obtain ⟨write,sent,rfl⟩ := List.mem_map.mp (entries.mem_iff.mp member)
      obtain ⟨low,high⟩ := ranged write sent
      refine ⟨rfl,low,?_⟩
      change write.millisecondsSinceEpoch < 10 ^ 13
      omega
  · have values := ((docs_perm _).trans entries).map Prod.snd
    simpa [items,Function.comp_def] using values

/-- Two messages committed in the other order than they were sent in. -/
def reordered : List (Label Bool String) :=
  [.signIn false anna,.openChat false,.onSend false "first" 1609459200000,
    .onSend false "second" 1609459200001,.commit 1,.commit 0]

theorem run_chronological_example : ∃ (final : State Bool String) (writes : List (Write String)),
    Runs.run step initial reordered = some final ∧
    (final.msgs "anna").map Prod.fst = ["1609459200001","1609459200000"] ∧
    messages final "anna" = writes.map Write.message ∧
    writes.Pairwise (fun first second =>
      first.millisecondsSinceEpoch < second.millisecondsSinceEpoch) := by
  let final := (Runs.run step initial reordered).get rfl
  have reached : Runs.run step initial reordered = some final := rfl
  have all : Stored final "anna" (sentTo final "anna") := by
    rw [Stored,show pendingTo final "anna" = [] from rfl,List.append_nil]
  have ranged : ∀ write ∈ sentTo final "anna",
      10 ^ 12 ≤ write.millisecondsSinceEpoch ∧ write.millisecondsSinceEpoch ≤ 10 ^ 13 - 1 := by
    simp only [sentTo,List.forall_mem_filter]
    decide
  obtain ⟨writes,shown,ordered,_⟩ :=
    run_chronological reordered final reached "anna" _ all (by decide) ranged
  exact ⟨final,writes,reached,by decide,shown,ordered⟩

end VisionsAcademy.ChatOrder
