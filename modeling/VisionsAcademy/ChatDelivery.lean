import Mathlib
import VisionsAcademy.Library.Commits
import VisionsAcademy.Chat

/-! Which messages a conversation holds once all its writes have committed. Both
sending paths name the document of a message by a clock reading in milliseconds, and
a message whose reading is used again is replaced. -/
namespace VisionsAcademy.ChatDelivery
open Chat Commits

variable {Device Document : Type}

def conversation (state : State Device Document) (uid : String) : List ChatMessage :=
  (state.msgs uid).map fun entry => entry.2.message

def sentTo (state : State Device Document) (uid : String) : List (Write Document) :=
  state.sent.filter fun write => write.uid = uid

def keyed (uid : String) (writes : List (Write Document)) : List (String × Write Document) :=
  (writes.filter fun write => write.uid = uid).map fun write => (write.id,write)

theorem keyed_append (uid : String) (first second : List (Write Document)) :
    keyed uid (first ++ second) = keyed uid first ++ keyed uid second := by
  simp [keyed]

theorem keyed_perm (uid : String) (first second : List (Write Document))
    (perm : first.Perm second) : (keyed uid first).Perm (keyed uid second) :=
  (perm.filter _).map _

def Delivered (state : State Device Document) : Prop :=
  ∀ uid, Accounted (state.msgs uid) (keyed uid state.pending) (keyed uid state.sent)

theorem delivered_commit (state : State Device Document) (index : Nat) (write : Write Document)
    (delivered : Delivered state) (found : state.pending[index]? = some write) :
    Delivered (state.commit index write) := by
  intro uid
  obtain ⟨bound,here⟩ := List.getElem?_eq_some_iff.mp found
  have taken : state.pending.Perm (write::state.pending.eraseIdx index) := by
    rw [← here]
    exact (List.getElem_cons_eraseIdx_perm bound).symm
  have shifted := keyed_perm uid _ _ taken
  by_cases same : write.uid = uid
  · subst uid
    have head : keyed write.uid (write::state.pending.eraseIdx index) =
        (write.id,write)::keyed write.uid (state.pending.eraseIdx index) := by
      simp [keyed]
    rw [head] at shifted
    have committed := accounted_commit _ _ _ _ _ (delivered write.uid) shifted
    simpa [State.commit] using committed
  · have tail : keyed uid (write::state.pending.eraseIdx index) =
        keyed uid (state.pending.eraseIdx index) := by
      simp [keyed,same]
    rw [tail] at shifted
    have kept := accounted_pending _ _ _ _ (delivered uid) shifted
    simpa [State.commit,Ne.symm same] using kept

theorem delivered_step [DecidableEq Device] (state : State Device Document)
    (label : Label Device Document) (next : State Device Document) (delivered : Delivered state)
    (taken : step state label = some next) : Delivered next := by
  rcases step_cases state next label taken with
    ⟨index,attachment,_,_,rfl⟩ | ⟨index,write,_,found,rfl⟩ | ⟨_,_,_,msgs,pending,sent⟩
  · exact delivered
  · exact delivered_commit state index write delivered found
  · intro uid
    rw [msgs,pending,sent,keyed_append,keyed_append]
    exact accounted_issue _ _ _ _ (delivered uid)

theorem toString_injective : Function.Injective (toString : Int → String) :=
  fun _ _ same => Int.repr_injective same

theorem ids_nodup (writes : List (Write Document)) :
    ((writes.map fun write => (write.id,write)).map Prod.fst).Nodup ↔
      (writes.map Write.millisecondsSinceEpoch).Nodup := by
  have named : (writes.map fun write => (write.id,write)).map Prod.fst =
      (writes.map Write.millisecondsSinceEpoch).map toString := by
    simp [Write.id]
  rw [named]
  exact List.nodup_map_iff toString_injective

theorem run_delivered [DecidableEq Device] (labels : List (Label Device Document))
    (final : State Device Document) (reached : Runs.run step initial labels = some final) :
    Delivered final := by
  apply Runs.unconditional Delivered delivered_step initial final labels _ reached
  intro uid
  exact accounted_start

/-- In every run, once all writes have committed, a conversation holds every message
sent into it exactly once if and only if no two were sent at the same reading of a clock. -/
theorem run_delivers [DecidableEq Device] (labels : List (Label Device Document))
    (final : State Device Document) (reached : Runs.run step initial labels = some final)
    (settled : final.pending = []) (uid : String) :
    (conversation final uid).Perm ((sentTo final uid).map Write.message) ↔
      ((sentTo final uid).map Write.millisecondsSinceEpoch).Nodup := by
  have accounted := run_delivered labels final reached uid
  rw [settled] at accounted
  have messages : (keyed uid final.sent).map (fun write => write.2.message) =
      (sentTo final uid).map Write.message := by
    simp [keyed,sentTo]
  rw [← ids_nodup,← messages]
  exact settled_perm Write.message (final.msgs uid) (keyed uid final.sent) accounted

theorem run_delivers_example : ∃ final : State Bool String,
    Runs.run step initial [.signIn false anna,.signIn true anna,.openChat false,.openChat true,
      .onSend false "hello" 1001,.onSend true "again" 1000,.commit 1,.commit 0] = some final ∧
    (conversation final "anna").Perm ((sentTo final "anna").map Write.message) := by
  refine ⟨_,rfl,?_⟩
  refine (run_delivers [.signIn false anna,.signIn true anna,.openChat false,.openChat true,
    .onSend false "hello" 1001,.onSend true "again" 1000,.commit 1,.commit 0] _ rfl rfl
    "anna").mpr ?_
  decide

theorem same_millisecond : ∃ final : State Bool String,
    Runs.run step initial [.signIn false anna,.signIn true anna,.openChat false,.openChat true,
      .onSend false "hello" 1000,.onSend true "again" 1000,.commit 0,.commit 0] = some final ∧
    final.pending = [] ∧
    ¬ (conversation final "anna").Perm ((sentTo final "anna").map Write.message) := by
  refine ⟨_,rfl,rfl,?_⟩
  intro perm
  have lengths := perm.length_eq
  revert lengths
  decide

end VisionsAcademy.ChatDelivery
