import VisionsAcademy.Chat

/-! The quick replies of lib/ChatScreen.dart while the screen is mounted: the
StreamBuilder's builder, `onQuickReply` and the timers of `systemMessage`, which
fire in any order whatever their durations. `setState` only schedules a run of the
builder, so that run is a step of its own. -/
namespace VisionsAcademy.QuickReplies

open VisionsAcademy.Chat (ChatUser)

structure Reply where
  value : String

/-- A message built without an identifier is given a fresh one, so it is known by
where it comes from: a document of msgs, or a reply that was chosen. -/
inductive ChatMessage (Document : Type)
  | fromJson (document : Document)
  | chosen (text : String) (createdAt : Int) (user : ChatUser)

inductive Timer
  | onQuickReply
  | again
  | systemMessage
  | animateTo
  deriving DecidableEq

variable {Document : Type}

/-- One run of the builder on a snapshot with data: the list its DashChat displays,
the local variable `messages` its callbacks share, and whether that variable still
is the displayed list. -/
structure Built (Document : Type) where
  displayed : List (ChatMessage Document)
  messages : List (ChatMessage Document)
  shared : Bool

/-- `messages`, `m` and `i` are the fields of `_ChatScreenState`. Without a builder
run on data there is the progress indicator and no DashChat. The replies chosen and
the reads of `m` outside its bounds are history. -/
structure State (Document : Type) where
  snapshot : Option (List Document)
  dashChat : Option (Built Document)
  messages : List (ChatMessage Document)
  m : List (ChatMessage Document)
  i : Nat
  timers : List Timer
  replies : List (ChatMessage Document)
  rangeErrors : Nat

inductive Label (Document : Type)
  | snapshot (docs : Option (List Document))
  | rebuild
  | onQuickReply (reply : Reply) (now : Int)
  | fire (timer : Nat)

def initial : State Document := ⟨none,none,[],[],0,[],[],0⟩

def builder (snapshot : Option (List Document)) : Option (Built Document) :=
  snapshot.map fun items =>
    let messages := items.map ChatMessage.fromJson
    ⟨messages,messages,true⟩

def State.build (state : State Document) : State Document :=
  {state with dashChat := builder state.snapshot}

def State.start (state : State Document) (timers : List Timer) : State Document :=
  {state with timers := state.timers ++ timers}

/-- `messages.add` reaches the displayed list only until the first
`messages = [...messages]` of the same builder run. -/
def Built.add (built : Built Document) (message : ChatMessage Document) : Built Document where
  displayed := if built.shared then built.displayed ++ [message] else built.displayed
  messages := built.messages ++ [message]
  shared := false

def State.onQuickReply (state : State Document) (built : Built Document)
    (message : ChatMessage Document) : State Document :=
  State.start {state with
    dashChat := some (built.add message)
    replies := state.replies ++ [message]} [.onQuickReply]

def State.elapse (state : State Document) (timer : Nat) : State Document :=
  {state with timers := state.timers.eraseIdx timer}

def State.systemMessage (state : State Document) : State Document := state.start [.systemMessage]

def State.fire (state : State Document) : Timer → State Document
  | .onQuickReply =>
    -- `_chatViewKey.currentState` is null without a DashChat
    match state.dashChat with
    | none => state
    | some _ => if state.i = 0 then state.systemMessage.start [.again] else state.systemMessage
  | .again => state.systemMessage
  | .systemMessage =>
    if state.i < 6 then
      match state.m[state.i]? with
      | none => {state with rangeErrors := state.rangeErrors + 1}
      | some message =>
        State.start {state with messages := state.messages ++ [message], i := state.i + 1}
          [.animateTo]
    else state.start [.animateTo]
  | .animateTo => state

def step (user : ChatUser) (state : State Document) : Label Document → Option (State Document)
  | .snapshot docs => some (State.build {state with snapshot := docs})
  | .rebuild => some state.build
  | .onQuickReply reply now => state.dashChat.map fun built =>
    state.onQuickReply built (.chosen reply.value now user)
  | .fire timer => state.timers[timer]?.map fun callback =>
    (state.elapse timer).fire callback

def Label.rebuilds : Label Document → Bool
  | .snapshot _ => true
  | .rebuild => true
  | .onQuickReply _ _ => false
  | .fire _ => false

def Keeps (user : ChatUser) (state : State Document) (label : Label Document) : Prop :=
  ∀ next, step user state label = some next →
    (label.rebuilds = true → ∀ built, next.dashChat = some built →
      ∀ reply ∈ next.replies, reply ∈ built.displayed) ∧
    next.rangeErrors = state.rangeErrors

/-- No builder run on data once a reply is chosen, and no timer of systemMessage. -/
def Undisturbed (state : State Document) : Label Document → Prop
  | .snapshot docs => docs = none ∨ state.replies = []
  | .rebuild => state.snapshot = none ∨ state.replies = []
  | .onQuickReply _ _ => True
  | .fire timer => state.timers[timer]? ≠ some .systemMessage

/-- `m` is never filled, so `i` never moves; and no document is a reply. -/
structure Unfilled (state : State Document) : Prop where
  m : state.m = []
  i : state.i = 0
  replies : ∀ reply ∈ state.replies, ∃ text createdAt user, reply = .chosen text createdAt user

theorem initial_unfilled : Unfilled (initial : State Document) where
  m := rfl
  i := rfl
  replies := by
    intro reply member
    cases member

@[simp] theorem build_replies (state : State Document) : state.build.replies = state.replies := rfl

@[simp] theorem build_rangeErrors (state : State Document) :
    state.build.rangeErrors = state.rangeErrors := rfl

theorem build_unfilled (state : State Document) (unfilled : Unfilled state) :
    Unfilled state.build :=
  ⟨unfilled.m,unfilled.i,unfilled.replies⟩

theorem elapse_unfilled (state : State Document) (timer : Nat) (unfilled : Unfilled state) :
    Unfilled (state.elapse timer) :=
  ⟨unfilled.m,unfilled.i,unfilled.replies⟩

theorem start_unfilled (state : State Document) (timers : List Timer) (unfilled : Unfilled state) :
    Unfilled (state.start timers) :=
  ⟨unfilled.m,unfilled.i,unfilled.replies⟩

/-- With `m` empty the callback of systemMessage always throws, before `i++` and
before it starts its own timer. -/
theorem fire_systemMessage (state : State Document) (unfilled : Unfilled state) :
    state.fire .systemMessage = {state with rangeErrors := state.rangeErrors + 1} := by
  have bounded : state.i < 6 := by rw [unfilled.i]; decide
  have absent : state.m[state.i]? = none := by rw [unfilled.m]; rfl
  simp only [State.fire,bounded,if_true,absent]

/-- Every other callback at most starts timers. -/
theorem fire_start (state : State Document) (timer : Timer) (other : timer ≠ .systemMessage) :
    ∃ timers, state.fire timer = state.start timers := by
  have nothing : state = state.start [] := by
    unfold State.start
    rw [List.append_nil]
  cases timer with
  | onQuickReply =>
    simp only [State.fire]
    split
    · exact ⟨[],nothing⟩
    · split
      · refine ⟨[.systemMessage,.again],?_⟩
        simp only [State.systemMessage,State.start,List.append_assoc,List.cons_append,
          List.nil_append]
      · exact ⟨[.systemMessage],rfl⟩
  | again => exact ⟨[.systemMessage],rfl⟩
  | systemMessage => exact absurd rfl other
  | animateTo => exact ⟨[],nothing⟩

theorem fire_unfilled (state : State Document) (timer : Timer) (unfilled : Unfilled state) :
    Unfilled (state.fire timer) := by
  by_cases system : timer = .systemMessage
  · subst timer
    rw [fire_systemMessage state unfilled]
    exact ⟨unfilled.m,unfilled.i,unfilled.replies⟩
  · obtain ⟨timers,started⟩ := fire_start state timer system
    rw [started]
    exact start_unfilled state timers unfilled

theorem step_unfilled (user : ChatUser) (state : State Document) (label : Label Document)
    (next : State Document) (unfilled : Unfilled state) (taken : step user state label = some next) :
    Unfilled next := by
  cases label with
  | snapshot docs =>
    cases Option.some.inj taken
    exact build_unfilled _ ⟨unfilled.m,unfilled.i,unfilled.replies⟩
  | rebuild =>
    cases Option.some.inj taken
    exact build_unfilled state unfilled
  | onQuickReply reply now =>
    obtain ⟨built,_,rfl⟩ := Option.map_eq_some_iff.mp taken
    refine start_unfilled _ _ ⟨unfilled.m,unfilled.i,?_⟩
    intro other member
    rcases List.mem_append.mp member with earlier | last
    · exact unfilled.replies other earlier
    · exact ⟨reply.value,now,user,List.mem_singleton.mp last⟩
  | fire timer =>
    obtain ⟨callback,_,rfl⟩ := Option.map_eq_some_iff.mp taken
    exact fire_unfilled _ callback (elapse_unfilled state timer unfilled)

theorem build_shows (state : State Document) (unfilled : Unfilled state) :
    (∀ built, state.build.dashChat = some built → ∀ reply ∈ state.replies, reply ∈ built.displayed) ↔
      state.snapshot = none ∨ state.replies = [] := by
  constructor
  · intro shows
    cases data : state.snapshot with
    | none => exact .inl rfl
    | some items =>
      right
      apply List.eq_nil_iff_forall_not_mem.mpr
      intro reply member
      have running : state.build.dashChat = some ⟨items.map .fromJson,items.map .fromJson,true⟩ := by
        change builder state.snapshot = _
        rw [data]
        rfl
      have displayed := shows _ running reply member
      obtain ⟨document,_,decoded⟩ := List.mem_map.mp displayed
      obtain ⟨text,createdAt,user,rfl⟩ := unfilled.replies reply member
      contradiction
  · rintro (absent | silent) built running reply member
    · change builder state.snapshot = some built at running
      rw [absent] at running
      contradiction
    · rw [silent] at member
      cases member

theorem keeps_step (user : ChatUser) (state : State Document) (label : Label Document)
    (next : State Document) (unfilled : Unfilled state) (taken : step user state label = some next) :
    Keeps user state label ↔ Undisturbed state label := by
  have determined : Keeps user state label ↔
      ((label.rebuilds = true → ∀ built, next.dashChat = some built →
        ∀ reply ∈ next.replies, reply ∈ built.displayed) ∧
      next.rangeErrors = state.rangeErrors) := by
    constructor
    · intro keeps
      exact keeps next taken
    · intro kept other same
      cases Option.some.inj (taken.symm.trans same)
      exact kept
  rw [determined]
  cases label with
  | snapshot docs =>
    cases Option.some.inj taken
    have shows := build_shows {state with snapshot := docs}
      ⟨unfilled.m,unfilled.i,unfilled.replies⟩
    simpa [Label.rebuilds,Undisturbed] using shows
  | rebuild =>
    cases Option.some.inj taken
    have shows := build_shows state unfilled
    simpa [Label.rebuilds,Undisturbed] using shows
  | onQuickReply reply now =>
    obtain ⟨built,_,rfl⟩ := Option.map_eq_some_iff.mp taken
    exact iff_of_true ⟨by intro rebuilt; contradiction,rfl⟩ trivial
  | fire timer =>
    obtain ⟨callback,pending,rfl⟩ := Option.map_eq_some_iff.mp taken
    have condition : Undisturbed state (.fire timer) ↔ callback ≠ .systemMessage := by
      change state.timers[timer]? ≠ some .systemMessage ↔ _
      rw [pending]
      exact not_congr Option.some_inj
    rw [condition]
    by_cases system : callback = .systemMessage
    · subst callback
      rw [fire_systemMessage (state.elapse timer) (elapse_unfilled state timer unfilled)]
      refine iff_of_false ?_ (fun other => other rfl)
      rintro ⟨_,unchanged⟩
      exact absurd unchanged (Nat.succ_ne_self _)
    · obtain ⟨timers,started⟩ := fire_start (state.elapse timer) callback system
      rw [started]
      exact iff_of_true ⟨by intro rebuilt; contradiction,rfl⟩ system

theorem keeps_iff (user : ChatUser) (labels : List (Label Document)) :
    Runs.Along (step user) (Keeps user) initial labels ↔
      Runs.Along (step user) Undisturbed initial labels :=
  Runs.along_congr Unfilled (Keeps user) Undisturbed (step_unfilled user) (keeps_step user)
    initial labels initial_unfilled

def greeting : Label String := .snapshot (some ["How can we help?"])

def yes : Label String := .onQuickReply ⟨"yes"⟩ 0

/-- One reply is gone after the run of the builder that its own `setState` schedules,
and the timers it started read `m[0]` of the empty list. -/
theorem reply_lost :
    ¬Runs.Along (step (Chat.chatUser Chat.anna)) (Keeps (Chat.chatUser Chat.anna)) initial
        [greeting,yes,.rebuild] ∧
      ¬Runs.Along (step (Chat.chatUser Chat.anna)) (Keeps (Chat.chatUser Chat.anna)) initial
        [greeting,yes,.fire 0,.fire 0] := by
  constructor
  · intro along
    have later := (((along _ rfl).2 _ rfl).2 _ rfl).1
    have shown := (later _ rfl).1 rfl _ rfl _ (List.mem_singleton.mpr rfl)
    have decoded := List.mem_singleton.mp shown
    contradiction
  · intro along
    have later := ((((along _ rfl).2 _ rfl).2 _ rfl).2 _ rfl).1
    have unchanged := (later _ rfl).2
    contradiction

end VisionsAcademy.QuickReplies
