import Storyboard.Proofs.Command.Spending
import Storyboard.Proofs.Web.Drafts

/-!
# Built-in commands end

Whatever built-in commands are nested in a node, carrying it out ends within the levels of
the node and is paid from the parts of the node.  The induction is on the levels: a
command hands on parts of its payload only, or the event of a screen, which takes fewer
levels as it opens no screen itself.
-/

namespace Storyboard

namespace Web
namespace Callbacks

variable {weight : Node → Nat}

/-- The callbacks that a payload names weigh no more than the payload. -/
theorem total_ofPayload_le (entries : List (String × Node)) :
    (ofPayload (.mapping entries)).total weight ≤ Node.total weight (.mapping entries) := by
  have present : ∀ key, Node.total? weight (presentField (.mapping entries) key) ≤
      Node.total? weight (Table.get? entries key) :=
    fun key => Node.total?_filter_le _ (Table.get? entries key)
  have values : (["onSuccess", "onError", "onFinally"].map fun key =>
      Node.total? weight (Table.get? entries key)).sum ≤ _ :=
    Node.sum_total?_get?_le (by decide) entries
  simp only [List.map_cons, List.map_nil, List.sum_cons, List.sum_nil] at values
  have success := present "onSuccess"
  have error := present "onError"
  have last := present "onFinally"
  rw [Node.total_mapping]
  simp only [total, ofPayload]
  omega

/-- The callbacks that a payload names take fewer levels than the payload. -/
theorem levels_ofPayload_lt
    {screens : List (String × Screen)}
    {entries : List (String × Node)}
    {event : Node}
    (member : event ∈ (ofPayload (.mapping entries)).events) :
    event.levels screens < (Node.mapping entries).levels screens := by
  have named : ∃ key, presentField (.mapping entries) key = some event := by
    simp only [events, ofPayload, List.mem_append, Option.mem_toList] at member
    rcases member with (success | error) | last
    · exact ⟨_, success⟩
    · exact ⟨_, error⟩
    · exact ⟨_, last⟩
  obtain ⟨key, present⟩ := named
  have found : Table.get? entries key = some event := (Option.filter_eq_some_iff.mp present).1
  have member : (key, event) ∈ entries := Table.mem_of_get?_eq_some found
  exact Node.levels_lt_of_mem_mapping member

end Callbacks
end Web

namespace Session
namespace Ends

variable {screens : List (String × Screen)} {limit least : Nat}

/-- A deed of a command is paid by what the command weighs. -/
theorem noteCommand
    (index : Option Nat)
    (node : Node) :
    Ends screens limit least (fun weight => weight node) 0 fun _ session =>
      some (session.note (.command index node)) := by
  intro session ready
  refine ⟨_, fun _ _ => rfl, ⟨ready.quiet, ready.known, ready.balanced, ready.shallow⟩, ?_, ?_⟩
  · intro weight
    simp only [spent, earned, note, Deed.commands_append, Deed.commands_command,
      Deed.screens_append, Deed.screens_command, List.map_append, List.map_cons, List.map_nil,
      List.sum_append, List.sum_cons, List.sum_nil, List.append_nil]
    omega
  · exact Nat.le_refl _

/-- A request is paid by what the events that wait on it weigh. -/
theorem issue
    (request : Web.Request)
    {pending : Web.Pending}
    (shallow : ∀ event ∈ pending.callbacks.events, event.levels screens < limit) :
    Ends screens limit least (fun weight => pending.callbacks.total weight)
      (1 + pending.callbacks.total (Node.charge screens)) fun _ session =>
        some (session.issue request pending) := by
  intro session ready
  refine ⟨_, fun _ _ => rfl, ?_, ?_, ?_⟩
  · refine ⟨ready.quiet, ready.known, ready.balanced.issue request pending, ?_⟩
    intro entry member event waits
    rcases List.mem_append.mp member with earlier | latest
    · exact ready.shallow entry earlier event waits
    · obtain rfl := List.mem_singleton.mp latest
      exact shallow event waits
  · intro weight
    simp only [spent, earned, Session.issue, Web.Exchange.issue, Web.Exchange.awaited,
      List.map_append, List.map_cons, List.map_nil, List.sum_append, List.sum_cons, List.sum_nil]
    omega
  · simp only [asked, Session.issue, Web.Exchange.issue, Web.Exchange.awaited,
      List.length_append, List.length_singleton, List.map_append, List.map_cons, List.map_nil,
      List.sum_append, List.sum_cons, List.sum_nil]
    omega

theorem during
    {work : (Node → Nat) → Nat}
    {requests : Nat}
    {body : Nat → Session → Option Session}
    (ends : Ends screens limit least work requests body)
    (interpreter : Interpreter)
    (index : Option Nat)
    (name : String)
    (value : Node) :
    Ends screens limit least work requests fun bound =>
      (interpreter.outerFrame index bound).during name value (body bound) := by
  intro session ready
  have sets : Ends screens limit least (fun _ => 0) 0 fun bound session =>
      session.update bound ⟨name, some value⟩ := update _
  have restores : Ends screens limit least (fun _ => 0) 0 fun bound middle =>
      middle.update bound ⟨name, session.context.get? name⟩ := update _
  have steps := sets.andThen (ends.andThen restores)
  exact (steps.within (fun _ => by omega) (by omega)) session ready

end Ends
end Session

/-! ## Events -/

namespace Interpreter

/-- Carrying out a node that takes few enough levels ends and is paid from its parts. -/
def Runs
    (interpreter : Interpreter)
    (index : Option Nat)
    (screens : List (String × Screen))
    (limit least : Nat) : Prop :=
  ∀ node : Node, node.levels screens < least →
    Session.Ends screens limit least (fun weight => node.total weight)
      (node.total (Node.charge screens)) fun bound => interpreter.execute index bound node

namespace Runs

open Session

variable {interpreter : Interpreter} {index : Option Nat} {screens : List (String × Screen)}
  {limit least : Nat} (runs : interpreter.Runs index screens limit least)

include runs

/-- Commands one after another, by induction on the list. -/
theorem runAll
    (commands : List Node)
    (shallow : ∀ command ∈ commands, command.levels screens < least) :
    Ends screens limit least (fun weight => (commands.map (Node.total weight)).sum)
      (commands.map (Node.total (Node.charge screens))).sum fun bound =>
        (interpreter.outerFrame index bound).runAll commands := by
  induction commands with
  | nil => exact .stay
  | cons command rest inductionHypothesis =>
      have first := runs command (shallow command List.mem_cons_self)
      have others := inductionHypothesis fun other member =>
        shallow other (List.mem_cons_of_mem command member)
      refine ((first.andThen others).of_eq fun bound session => ?_).within (fun _ => ?_) ?_
      · exact (interpreter.outerFrame index bound).runAll_cons command rest session
      · rw [List.map_cons, List.sum_cons]
      · rw [List.map_cons, List.sum_cons]

theorem handle
    (event : Node)
    (shallow : event.levels screens < least) :
    Ends screens limit least (fun weight => event.total weight)
      (event.total (Node.charge screens)) fun bound =>
        (interpreter.outerFrame index bound).handle event := by
  cases event with
  | mapping entries => exact runs (.mapping entries) shallow
  | sequence commands =>
      have inside : ∀ command ∈ commands, command.levels screens < least := fun command member =>
        Nat.lt_trans (Node.levels_lt_of_mem_sequence member) shallow
      exact (runs.runAll commands inside).within
        (fun _ => by rw [Node.total_sequence]; exact Nat.le_add_left _ _)
        (by rw [Node.total_sequence]; exact Nat.le_add_left _ _)
  | null | bool | number | string =>
      exact Ends.stay.within (fun _ => Nat.zero_le _) (Nat.zero_le _)

theorem handle?
    {event : Option Node}
    (shallow : ∀ node, event = some node → node.levels screens < least) :
    Ends screens limit least (fun weight => Node.total? weight event)
      (Node.total? (Node.charge screens) event) fun bound =>
        (interpreter.outerFrame index bound).handle? event := by
  cases event with
  | none => exact .stay
  | some node => exact runs.handle node (shallow node rfl)

theorem handleDuring
    (name : String)
    (value : Node)
    {event : Option Node}
    (shallow : ∀ node, event = some node → node.levels screens < least) :
    Ends screens limit least (fun weight => Node.total? weight event)
      (Node.total? (Node.charge screens) event) fun bound =>
        (interpreter.outerFrame index bound).handleDuring name value event := by
  cases event with
  | none => exact .stay
  | some node => exact (runs.handle node (shallow node rfl)).during interpreter index name value

omit runs in
theorem keepOutcome
    (pending : Web.Pending)
    (outcome : Web.Outcome) :
    Ends screens limit least (fun _ => 0) 0 fun bound =>
      (interpreter.outerFrame index bound).keepOutcome pending outcome := by
  cases outcome with
  | error error => exact .stay
  | ok response =>
      unfold Frame.keepOutcome
      by_cases success : Web.isSuccess response.status = true
      · simp only [success, if_true]
        cases pending.target with
        | none => exact .stay
        | some path => exact .assign interpreter.evaluator index path _
      · simp only [success]
        exact .stay

/-- The event of an outcome. -/
theorem callBack
    {callbacks : Web.Callbacks}
    (shallow : ∀ event ∈ callbacks.events, event.levels screens < least)
    (outcome : Web.Outcome) :
    Ends screens limit least
      (fun weight =>
        Node.total? weight callbacks.onSuccess + Node.total? weight callbacks.onError)
      (Node.total? (Node.charge screens) callbacks.onSuccess +
        Node.total? (Node.charge screens) callbacks.onError) fun bound =>
          (interpreter.outerFrame index bound).callBack callbacks outcome := by
  have success : ∀ node, callbacks.onSuccess = some node → node.levels screens < least :=
    fun node named => shallow node (by simp [Web.Callbacks.events, named])
  have error : ∀ node, callbacks.onError = some node → node.levels screens < least :=
    fun node named => shallow node (by simp [Web.Callbacks.events, named])
  cases outcome with
  | error failure =>
      exact (runs.handleDuring interpreter.settings.errorVariable (failure.report none)
        error).within (fun _ => Nat.le_add_left _ _) (Nat.le_add_left _ _)
  | ok response =>
      unfold Frame.callBack
      by_cases succeeded : Web.isSuccess response.status = true
      · simp only [succeeded, if_true]
        exact (runs.handleDuring interpreter.settings.responseVariable response.metadata
          success).within (fun _ => Nat.le_add_right _ _) (Nat.le_add_right _ _)
      · simp only [succeeded]
        cases named : callbacks.onError with
        | none => exact Ends.stay.within (fun _ => Nat.zero_le _) (Nat.zero_le _)
        | some event =>
            have inner := (runs.handle event (error event named)).during interpreter index
              interpreter.settings.errorVariable
              ((Web.RequestError.status response.status).report (some response))
            have outer := inner.during interpreter index interpreter.settings.responseVariable
              response.metadata
            exact outer.within (fun _ => Nat.le_add_left _ _) (Nat.le_add_left _ _)

/-- The end of a request. -/
theorem complete
    {pending : Web.Pending}
    (shallow : ∀ event ∈ pending.callbacks.events, event.levels screens < least)
    (outcome : Web.Outcome) :
    Ends screens limit least (fun weight => pending.callbacks.total weight)
      (pending.callbacks.total (Node.charge screens)) fun bound =>
        (interpreter.outerFrame index bound).complete pending outcome := by
  have last : ∀ node, pending.callbacks.onFinally = some node → node.levels screens < least :=
    fun node named => shallow node (by simp [Web.Callbacks.events, named])
  have keeps : Ends screens limit least (fun _ => 0) 0 fun bound =>
      (interpreter.outerFrame index bound).keepOutcome pending outcome :=
    keepOutcome pending outcome
  have completes := (keeps.andThen (runs.callBack shallow outcome)).andThen (runs.handle? last)
  exact completes.within (fun _ => by simp only [Web.Callbacks.total]; omega)
    (by simp only [Web.Callbacks.total]; omega)

end Runs
end Interpreter

/-! ## The built-in commands -/

namespace Session
namespace Ends

variable {screens : List (String × Screen)} {limit least : Nat} {work : (Node → Nat) → Nat}
  {requests : Nat}

/-- What follows the evaluation of a node. -/
theorem afterNode
    (interpreter : Interpreter)
    (index : Option Nat)
    (node : Node)
    {next : Node → Nat → Session → Option Session}
    (each : ∀ value, Ends screens limit least work requests (next value)) :
    Ends screens limit least work requests fun bound session =>
      next ((interpreter.outerFrame index bound).evaluate node session).1 bound
        ((interpreter.outerFrame index bound).evaluate node session).2 := by
  refine after ((interpreter.outerFrame index 0).evaluate node) (fun session => ?_) each
  obtain ⟨-, paths, -, same⟩ :=
    (Recalls.refl session).evaluate interpreter.evaluator index node
  exact ⟨paths, same⟩

/-- What follows the evaluation of a field. -/
theorem afterField
    (interpreter : Interpreter)
    (index : Option Nat)
    (payload : Node)
    (key : String)
    {next : Node → Nat → Session → Option Session}
    (each : ∀ value, Ends screens limit least work requests (next value)) :
    Ends screens limit least work requests fun bound session =>
      next ((interpreter.outerFrame index bound).evaluateField payload key session).1 bound
        ((interpreter.outerFrame index bound).evaluateField payload key session).2 := by
  refine after ((interpreter.outerFrame index 0).evaluateField payload key) (fun session => ?_) each
  obtain ⟨-, paths, -, same⟩ :=
    (Recalls.refl session).evaluateField (interpreter.outerFrame index 0) payload key
  exact ⟨paths, same⟩

end Ends
end Session

namespace Interpreter
namespace Runs

open Session

variable {interpreter : Interpreter} {index : Option Nat} {screens : List (String × Screen)}
  {limit least : Nat}

section Simple

variable (payload : Node)

theorem assignAt (key : String) :
    Ends screens limit least (fun _ => 0) 0 fun bound =>
      Command.assignAt key (interpreter.outerFrame index bound) payload := by
  unfold Command.assignAt
  cases (payload.get? key).bind Node.asString? with
  | none => exact .stay
  | some path =>
      exact .afterField interpreter index payload "value" fun value =>
        .assign interpreter.evaluator index path value

theorem storeUnder (key : Node) :
    Ends screens limit least (fun _ => 0) 0 fun bound =>
      Command.storeUnder (interpreter.outerFrame index bound) payload key := by
  cases key with
  | string key =>
      unfold Command.storeUnder
      by_cases empty : key = ""
      · simp only [empty, if_true]
        exact .stay
      · have stores : ∀ value : Node, Ends screens limit least (fun _ => 0) 0 fun _ session =>
            some (session.store key value) := fun value =>
          .idle (fun _ => rfl) (fun _ => rfl) (fun _ => rfl) (fun _ => rfl)
        simp only [empty, if_false]
        exact .afterField interpreter index payload "value" stores
  | null | bool | number | sequence | mapping => exact .stay

theorem store :
    Ends screens limit least (fun _ => 0) 0 fun bound =>
      Command.store (interpreter.outerFrame index bound) payload :=
  .afterField interpreter index payload "key" fun key => storeUnder payload key

theorem log :
    Ends screens limit least (fun _ => 0) 0 fun bound =>
      Command.log (interpreter.outerFrame index bound) payload := by
  have logs : ∀ message : Node, Ends screens limit least (fun _ => 0) 0 fun _ session =>
      some (session.log message.display) := fun message =>
    .idle (fun _ => rfl) (fun _ => rfl) (fun _ => rfl) (fun _ => rfl)
  exact .afterNode interpreter index payload logs

theorem pop :
    Ends screens limit least (fun _ => 0) 0 fun bound =>
      Command.pop (interpreter.outerFrame index bound) payload := by
  have pops : Ends screens limit least (fun _ => 0) 0 fun _ session =>
      some { session with navigation := session.navigation.pop } :=
    .idle (fun _ => rfl) (fun _ => rfl) (fun _ => rfl) (fun _ => rfl)
  exact pops

theorem popToRoot :
    Ends screens limit least (fun _ => 0) 0 fun bound =>
      Command.popToRoot (interpreter.outerFrame index bound) payload := by
  have pops : Ends screens limit least (fun _ => 0) 0 fun _ session =>
      some { session with navigation := session.navigation.popToRoot } :=
    .idle (fun _ => rfl) (fun _ => rfl) (fun _ => rfl) (fun _ => rfl)
  exact pops

end Simple

variable (runs : interpreter.Runs index screens limit least)

include runs

theorem inSequence
    {payload : Node}
    (shallow : payload.levels screens < least) :
    Ends screens limit least (fun weight => payload.total weight)
      (payload.total (Node.charge screens)) fun bound =>
        Command.inSequence (interpreter.outerFrame index bound) payload := by
  cases payload with
  | sequence commands => exact runs.handle (.sequence commands) shallow
  | null | bool | number | string | mapping =>
      exact Ends.stay.within (fun _ => Nat.zero_le _) (Nat.zero_le _)

theorem branch
    {payload : Node}
    (shallow : payload.levels screens < least) :
    Ends screens limit least (fun weight => payload.total weight)
      (payload.total (Node.charge screens)) fun bound =>
        Command.branch (interpreter.outerFrame index bound) payload := by
  cases payload with
  | mapping entries =>
      have follows : ∀ condition : Node, Ends screens limit least
          (fun weight => Node.total weight (.mapping entries))
          (Node.total (Node.charge screens) (.mapping entries)) fun bound =>
            (interpreter.outerFrame index bound).handle?
              ((Table.get? entries (if condition.isTrue then "then" else "else")).filter
                Command.isContainer) := by
        intro condition
        refine (runs.handle? fun node named => ?_).within (fun weight => ?_) ?_
        · have found := (Option.filter_eq_some_iff.mp named).1
          exact Nat.lt_trans
            (Node.levels_lt_of_mem_mapping (Table.mem_of_get?_eq_some found)) shallow
        · exact Nat.le_trans (Node.total?_filter_le _ _) (Node.total?_get?_le entries _)
        · exact Nat.le_trans (Node.total?_filter_le _ _) (Node.total?_get?_le entries _)
      exact .afterField interpreter index (.mapping entries) "condition" follows
  | null | bool | number | string | sequence =>
      exact Ends.stay.within (fun _ => Nat.zero_le _) (Nat.zero_le _)

/-- The event of the screen that is opened pays for itself. -/
theorem enter
    (plain : Screen.Lacks Node.navigateKey screens)
    (shallow : ∀ id event, Screen.event? screens id = some event → event.levels screens < least)
    (value : Node) :
    Ends screens limit least (fun _ => 0) (Screen.mostRequests screens)
      fun bound => Command.enter (interpreter.outerFrame index bound) value := by
  unfold Command.enter
  cases Command.screenId? value with
  | none => exact Ends.stay.within (fun _ => Nat.le_refl _) (Nat.zero_le _)
  | some id =>
      intro session ready
      have readyAfter : (session.push id).Ready screens limit :=
        ⟨ready.quiet, ready.known, ready.balanced, ready.shallow⟩
      obtain ⟨result, finished, readyLast, spends⟩ :=
        runs.handle? (shallow id) (session.push id) readyAfter
      have event : session.onAppear? id = Screen.event? screens id := by
        rw [← ready.known]
        rfl
      refine ⟨result, fun bound enough => ?_, readyLast, ?_, ?_⟩
      · simp only [event]
        exact finished bound enough
      · intro weight
        have paid := spends.commands weight
        simp only [spent, earned, push, note, Deed.commands_append, Deed.commands_screen,
          Deed.screens_append, Deed.screens_screen, List.map_append, List.map_cons, List.map_nil,
          List.sum_append, List.sum_cons, List.sum_nil, List.append_nil] at paid ⊢
        omega
      · refine Nat.le_trans spends.requests (Nat.add_le_add_left ?_ _)
        cases found : Screen.event? screens id with
        | none => exact Nat.zero_le _
        | some event => exact Node.total_charge_event_le plain found

theorem navigate
    (plain : Screen.Lacks Node.navigateKey screens)
    (shallow : ∀ id event, Screen.event? screens id = some event → event.levels screens < least)
    (payload : Node) :
    Ends screens limit least (fun _ => 0) (Screen.mostRequests screens)
      fun bound => Command.navigate (interpreter.outerFrame index bound) payload :=
  .afterNode interpreter index payload fun value => runs.enter plain shallow value

theorem dispatch
    {pending : Web.Pending}
    (shallow : ∀ event ∈ pending.callbacks.events, event.levels screens < least)
    (within : least ≤ limit)
    (drafted : Except Web.RequestError Web.Request) :
    Ends screens limit least (fun weight => pending.callbacks.total weight)
      (1 + pending.callbacks.total (Node.charge screens)) fun bound =>
        Command.dispatch (interpreter.outerFrame index bound) pending drafted := by
  cases drafted with
  | ok request =>
      exact .issue request fun event member => Nat.lt_of_lt_of_le (shallow event member) within
  | error error =>
      by_cases silent : error.isSilent = true
      · refine (Ends.stay.within (fun _ => Nat.zero_le _) (Nat.zero_le _)).of_eq fun _ _ => ?_
        rw [Command.dispatch, if_pos silent]
      · refine ((runs.complete shallow (.error error)).within (fun _ => Nat.le_refl _)
          (Nat.le_add_left _ _)).of_eq fun _ _ => ?_
        rw [Command.dispatch, if_neg silent]

theorem requestTo
    {entries : List (String × Node)}
    (shallow : (Node.mapping entries).levels screens < least)
    (within : least ≤ limit)
    (target : Node) :
    Ends screens limit least (fun weight => Node.total weight (.mapping entries))
      (1 + Node.total (Node.charge screens) (.mapping entries)) fun bound =>
        Command.requestTo (interpreter.outerFrame index bound) (.mapping entries) target := by
  have dispatches : ∀ drafted, Ends screens limit least
      (fun weight => Node.total weight (.mapping entries))
      (1 + Node.total (Node.charge screens) (.mapping entries)) fun bound =>
        Command.dispatch (interpreter.outerFrame index bound)
          ⟨.ofPayload (.mapping entries), Command.target? target, index⟩ drafted := by
    intro drafted
    refine (runs.dispatch (fun event member => ?_) within drafted).within (fun _ => ?_) ?_
    · exact Nat.lt_trans (Web.Callbacks.levels_ofPayload_lt member) shallow
    · exact Web.Callbacks.total_ofPayload_le entries
    · exact Nat.add_le_add_left (Web.Callbacks.total_ofPayload_le entries) 1
  refine Ends.after ((interpreter.outerFrame index 0).rules.draft
    ((interpreter.outerFrame index 0).evaluateField (.mapping entries))) (fun session => ?_)
    dispatches
  obtain ⟨-, paths, -, same⟩ :=
    (Recalls.refl session).draft (interpreter.outerFrame index 0) (.mapping entries)
  exact ⟨paths, same⟩

theorem request
    {payload : Node}
    (shallow : payload.levels screens < least)
    (within : least ≤ limit) :
    Ends screens limit least (fun weight => payload.total weight)
      (1 + payload.total (Node.charge screens)) fun bound =>
        Command.request (interpreter.outerFrame index bound) payload := by
  cases payload with
  | mapping entries =>
      exact .afterField interpreter index (.mapping entries) "var" fun target =>
        runs.requestTo shallow within target
  | null | bool | number | string | sequence =>
      exact Ends.stay.within (fun _ => Nat.zero_le _) (Nat.zero_le _)

/-- The body of a built-in command is paid from its payload; a command that issues a request or
opens a screen is charged by its name besides. -/
theorem builtin
    (plain : Screen.Lacks Node.navigateKey screens)
    (within : least ≤ limit)
    {name : String}
    {command : Command}
    (member : (name, command) ∈ Command.builtin)
    {payload : Node}
    (shallow : (Node.mapping [(name, payload)]).levels screens ≤ least) :
    Ends screens limit least (fun weight => payload.total weight)
      (Node.total (Node.charge screens) (.mapping [(name, payload)])) fun bound =>
        command (interpreter.outerFrame index bound) payload := by
  have inside : payload.levels screens < least := by
    have entry : (name, payload) ∈ [(name, payload)] := List.mem_cons_self
    exact Nat.lt_of_lt_of_le (Node.levels_lt_of_mem_mapping entry) shallow
  have whole : Node.total (Node.charge screens) (.mapping [(name, payload)]) =
      Node.charge screens (.mapping [(name, payload)]) + payload.total (Node.charge screens) := by
    rw [Node.total_mapping]
    rfl
  rw [whole]
  simp only [Command.builtin, List.mem_cons, Prod.mk.injEq, List.not_mem_nil, or_false] at member
  rcases member with ⟨rfl, rfl⟩ | ⟨rfl, rfl⟩ | ⟨rfl, rfl⟩ | ⟨rfl, rfl⟩ | ⟨rfl, rfl⟩ | ⟨rfl, rfl⟩ |
    ⟨rfl, rfl⟩ | ⟨rfl, rfl⟩ | ⟨rfl, rfl⟩ | ⟨rfl, rfl⟩
  · exact (assignAt payload "var").within (fun _ => Nat.zero_le _) (Nat.zero_le _)
  · exact (assignAt payload "path").within (fun _ => Nat.zero_le _) (Nat.zero_le _)
  · exact (runs.inSequence inside).within (fun _ => Nat.le_refl _) (Nat.le_add_left _ _)
  · exact (runs.branch inside).within (fun _ => Nat.le_refl _) (Nat.le_add_left _ _)
  · have events : ∀ id event, Screen.event? screens id = some event →
        event.levels screens < least := fun id event found =>
      Nat.lt_of_lt_of_le (Node.levels_event_lt plain found payload) shallow
    have charged : Screen.mostRequests screens ≤
        Node.charge screens (.mapping [(Node.navigateKey, payload)]) := by
      simp [Node.charge, Path.entriesOf, Node.asMapping?, Table.keys]
    exact (runs.navigate plain events payload).within (fun _ => Nat.zero_le _)
      (Nat.le_trans charged (Nat.le_add_right _ _))
  · exact (pop payload).within (fun _ => Nat.zero_le _) (Nat.zero_le _)
  · exact (popToRoot payload).within (fun _ => Nat.zero_le _) (Nat.zero_le _)
  · exact (store payload).within (fun _ => Nat.zero_le _) (Nat.zero_le _)
  · exact (log payload).within (fun _ => Nat.zero_le _) (Nat.zero_le _)
  · have charged : 1 ≤ Node.charge screens (.mapping [(Node.requestKey, payload)]) := by
      simp [Node.charge, Path.entriesOf, Node.asMapping?, Table.keys]
    exact (runs.request inside within).within (fun _ => Nat.le_refl _)
      (Nat.add_le_add_right charged _)

end Runs

open Session

variable {interpreter : Interpreter} {index : Option Nat} {screens : List (String × Screen)}
  {limit : Nat}

theorem eq_of_commandParts?_eq_some
    {node : Node}
    {name : String}
    {payload : Node}
    (parted : commandParts? node = some (name, payload)) :
    node = .mapping [(name, payload)] := by
  unfold commandParts? at parted
  split at parted
  · cases parted
    rfl
  · cases parted

/-- What ends on one level more of nesting. -/
theorem ends_succ
    {least : Nat}
    {work : (Node → Nat) → Nat}
    {requests : Nat}
    {operation inner : Nat → Session → Option Session}
    (ends : Ends screens limit least work requests inner)
    (unfolded : ∀ bound session, operation (bound + 1) session = inner bound session) :
    Ends screens limit (least + 1) work requests operation := by
  intro session ready
  obtain ⟨result, finished, rest⟩ := ends session ready
  refine ⟨result, fun bound enough => ?_, rest⟩
  obtain ⟨fewer, rfl⟩ : ∃ fewer, bound = fewer + 1 := ⟨bound - 1, by omega⟩
  rw [unfolded]
  exact finished fewer (by omega)

/-- Carrying out nodes of built-in commands ends, by induction on the levels that they take. -/
theorem runs_of_builtin
    (commands : ∀ entry ∈ interpreter.commands, entry ∈ Command.builtin)
    (plain : Screen.Lacks Node.navigateKey screens)
    {least : Nat}
    (within : least ≤ limit) :
    interpreter.Runs index screens limit least := by
  induction least with
  | zero => exact fun _ impossible => by cases impossible
  | succ least inductionHypothesis =>
      have runs := inductionHypothesis (Nat.le_of_succ_le within)
      intro node shallow
      have idle : Ends screens limit least (fun weight => node.total weight)
          (node.total (Node.charge screens)) fun _ => some :=
        Ends.stay.within (fun _ => Nat.zero_le _) (Nat.zero_le _)
      cases parted : commandParts? node with
      | none => exact ends_succ idle fun bound session => by simp [execute, parted]
      | some parts =>
          obtain ⟨name, payload⟩ := parts
          cases found : Table.get? interpreter.commands name with
          | none => exact ends_succ idle fun bound session => by simp [execute, parted, found]
          | some command =>
              obtain rfl : node = .mapping [(name, payload)] := eq_of_commandParts?_eq_some parted
              have member := commands (name, command) (Table.mem_of_get?_eq_some found)
              have body := runs.builtin plain (Nat.le_of_succ_le within) member
                (Nat.le_of_lt_succ shallow)
              have noted : Ends screens limit least
                  (fun weight => weight (.mapping [(name, payload)])) 0 fun _ session =>
                    some (session.note (.command index (.mapping [(name, payload)]))) :=
                .noteCommand index _
              refine ends_succ ((noted.andThen body).within (fun weight => ?_) ?_)
                fun bound session => ?_
              · rw [Node.total_mapping]
                simp
              · exact Nat.le_of_eq (Nat.zero_add _)
              · simp [execute, parted, found, outerFrame]

end Interpreter
end Storyboard
