import Mathlib.Algebra.BigOperators.Ring.List
import Storyboard.Proofs.Node.Weights
import Storyboard.Proofs.Overlooked
import Storyboard.Proofs.Web.Accounts

/-!
# What operations on a session spend

An operation that ends carries out commands, opens screens and issues requests whose
events wait.  What it carries out and what waits afterwards is paid from a budget, from
what waited before, and from the events of the screens that it opens; so is the number
of requests.  Budgets add up where operations follow one another.
-/

namespace Storyboard

namespace Node

/-- The key of the command that opens a screen. -/
def navigateKey : String := "navigate"

/-- The key of the command that issues a request. -/
def requestKey : String := "HttpRequest.request"

end Node

/-! ## The events of screens -/

namespace Screen

/-- The greatest measure of an event of a screen. -/
def greatest
    (measure : Node → Nat)
    (screens : List (String × Screen)) : Nat :=
  (screens.map fun entry => entry.2.onAppear.elim 0 measure).foldr max 0

/-- The greatest number of requests that an event of a screen has. -/
def mostRequests (screens : List (String × Screen)) : Nat :=
  greatest (Node.occurrences Node.requestKey) screens

/-- The event of a screen that is known by its name. -/
def event? (screens : List (String × Screen)) (id : String) : Option Node :=
  (Table.get? screens id).bind Screen.onAppear

/-- No event of a screen has a key, at any depth. -/
def Lacks (key : String) (screens : List (String × Screen)) : Prop :=
  ∀ entry ∈ screens, ∀ event, entry.2.onAppear = some event → event.occurrences key = 0

variable {screens : List (String × Screen)} {id : String} {event : Node}

theorem le_greatest_of_mem
    (measure : Node → Nat)
    {entry : String × Screen}
    (member : entry ∈ screens) :
    entry.2.onAppear.elim 0 measure ≤ greatest measure screens := by
  induction screens with
  | nil => cases member
  | cons first rest inductionHypothesis =>
      rw [greatest, List.map_cons, List.foldr_cons]
      rcases List.mem_cons.mp member with rfl | later
      · exact Nat.le_max_left _ _
      · exact Nat.le_trans (inductionHypothesis later) (Nat.le_max_right _ _)

theorem exists_mem_of_event?_eq_some
    (found : event? screens id = some event) :
    ∃ entry ∈ screens, entry.2.onAppear = some event := by
  obtain ⟨screen, known, appears⟩ := Option.bind_eq_some_iff.mp found
  exact ⟨(id, screen), Table.mem_of_get?_eq_some known, appears⟩

theorem le_greatest
    (measure : Node → Nat)
    (found : event? screens id = some event) :
    measure event ≤ greatest measure screens := by
  obtain ⟨entry, member, appears⟩ := exists_mem_of_event?_eq_some found
  have atMost := le_greatest_of_mem measure member
  rwa [appears] at atMost

theorem Lacks.occurrences_eq_zero
    {key : String}
    (lacks : Lacks key screens)
    (found : event? screens id = some event) :
    event.occurrences key = 0 := by
  obtain ⟨entry, member, appears⟩ := exists_mem_of_event?_eq_some found
  exact lacks entry member event appears

end Screen

namespace Node

/-- How many levels of nesting it takes to carry out a node: its own and, if it may open a screen,
those of the events of screens. -/
def levels (screens : List (String × Screen)) (node : Node) : Nat :=
  node.depth +
    if node.occurrences navigateKey = 0 then 0 else Screen.greatest depth screens + 1

/-- How many requests the command that a part may be issues at most, by itself or by the event of
the screen that it opens. -/
def charge (screens : List (String × Screen)) (part : Node) : Nat :=
  (Table.keys (Path.entriesOf part)).count requestKey +
    (Table.keys (Path.entriesOf part)).count navigateKey * Screen.mostRequests screens

variable {screens : List (String × Screen)}

/-- What a node is charged for is told by its keys. -/
theorem total_charge (node : Node) :
    node.total (charge screens) =
      node.occurrences requestKey + node.occurrences navigateKey * Screen.mostRequests screens := by
  unfold total charge
  rw [List.sum_map_add, List.sum_map_mul_right]
  rfl

theorem levels_lt_of_mem_sequence
    {items : List Node}
    {item : Node}
    (member : item ∈ items) :
    item.levels screens < (Node.sequence items).levels screens := by
  have shallower := depth_lt_of_mem_sequence member
  have fewer : item.occurrences navigateKey ≤ (Node.sequence items).occurrences navigateKey :=
    total_le_of_mem_sequence member
  unfold levels
  split <;> split <;> omega

theorem levels_lt_of_mem_mapping
    {entries : List (String × Node)}
    {entry : String × Node}
    (member : entry ∈ entries) :
    entry.2.levels screens < (Node.mapping entries).levels screens := by
  have shallower := depth_lt_of_mem_mapping member
  have fewer : entry.2.occurrences navigateKey ≤ (Node.mapping entries).occurrences navigateKey :=
    total_le_of_mem_mapping member
  unfold levels
  split <;> split <;> omega

/-- The event of a screen takes fewer levels than a command that opens one. -/
theorem levels_event_lt
    (plain : Screen.Lacks navigateKey screens)
    {id : String}
    {event : Node}
    (found : Screen.event? screens id = some event)
    (payload : Node) :
    event.levels screens < (Node.mapping [(navigateKey, payload)]).levels screens := by
  have opens : (Node.mapping [(navigateKey, payload)]).occurrences navigateKey ≠ 0 := by
    rw [occurrences, total_mapping]
    simp [Path.entriesOf, asMapping?, Table.keys]
  have shallow := Screen.le_greatest depth found
  rw [levels, levels, if_pos (plain.occurrences_eq_zero found), if_neg opens]
  omega

/-- The event of a screen without the key of `navigate` is charged for its own requests alone. -/
theorem total_charge_event_le
    (plain : Screen.Lacks navigateKey screens)
    {id : String}
    {event : Node}
    (found : Screen.event? screens id = some event) :
    event.total (charge screens) ≤ Screen.mostRequests screens := by
  rw [total_charge, plain.occurrences_eq_zero found, Nat.zero_mul, Nat.add_zero]
  exact Screen.le_greatest (occurrences requestKey) found

end Node

/-! ## What is on record and what waits -/

namespace Deed

/-- The command that was carried out. -/
def command? : Deed → Option Node
  | .command _ node => some node
  | .screen _ => none

/-- The screen that was opened. -/
def screen? : Deed → Option String
  | .command _ _ => none
  | .screen id => some id

/-- The commands on record. -/
def commands (deeds : List Deed) : List Node := deeds.filterMap command?

/-- The screens on record. -/
def screens (deeds : List Deed) : List String := deeds.filterMap screen?

@[simp] theorem commands_append
    (first second : List Deed) :
    commands (first ++ second) = commands first ++ commands second :=
  List.filterMap_append

@[simp] theorem screens_append
    (first second : List Deed) :
    screens (first ++ second) = screens first ++ screens second :=
  List.filterMap_append

@[simp] theorem commands_command
    (index : Option Nat)
    (node : Node) :
    commands [.command index node] = [node] := rfl

@[simp] theorem commands_screen (id : String) : commands [.screen id] = [] := rfl

@[simp] theorem screens_command
    (index : Option Nat)
    (node : Node) :
    screens [.command index node] = [] := rfl

@[simp] theorem screens_screen (id : String) : screens [.screen id] = [id] := rfl

end Deed

namespace Web

/-- The events that may be handled. -/
def Callbacks.events (callbacks : Callbacks) : List Node :=
  callbacks.onSuccess.toList ++ callbacks.onError.toList ++ callbacks.onFinally.toList

/-- What the events weigh. -/
def Callbacks.total (weight : Node → Nat) (callbacks : Callbacks) : Nat :=
  Node.total? weight callbacks.onSuccess + Node.total? weight callbacks.onError +
    Node.total? weight callbacks.onFinally

/-- What the events of all requests that wait weigh. -/
def Exchange.awaited (weight : Node → Nat) (exchange : Exchange) : Nat :=
  (exchange.pending.map fun entry => entry.2.callbacks.total weight).sum

end Web

namespace Session

/-- What the commands on record and the events that wait weigh. -/
def spent (weight : Node → Nat) (session : Session) : Nat :=
  ((Deed.commands session.deeds).map weight).sum + session.exchange.awaited weight

/-- What the events of the screens on record weigh. -/
def earned
    (screens : List (String × Screen))
    (weight : Node → Nat)
    (session : Session) : Nat :=
  ((Deed.screens session.deeds).map fun id =>
    Node.total? weight (Screen.event? screens id)).sum

/-- The number of requests that were issued or will be on account of those that wait. -/
def asked (screens : List (String × Screen)) (session : Session) : Nat :=
  session.exchange.ledger.issued.length + session.exchange.awaited (Node.charge screens)

/-- Where nobody answers a change with a write, the books of requests balance, and no event that
waits takes more levels than a limit. -/
structure Ready
    (screens : List (String × Screen))
    (limit : Nat)
    (session : Session) : Prop where
  /-- Observers only watch. -/
  quiet : session.context.Quiet
  /-- The known screens. -/
  known : session.screens = screens
  /-- The books balance. -/
  balanced : session.exchange.Balanced
  /-- The events that wait. -/
  shallow : ∀ entry ∈ session.exchange.pending, ∀ event ∈ entry.2.callbacks.events,
    event.levels screens < limit

/-- What becomes of a session is paid from a budget. -/
structure Spends
    (screens : List (String × Screen))
    (work : (Node → Nat) → Nat)
    (requests : Nat)
    (session result : Session) : Prop where
  /-- The commands and the events that wait, whatever nodes weigh. -/
  commands : ∀ weight,
    result.spent weight + session.earned screens weight ≤
      session.spent weight + result.earned screens weight + work weight
  /-- The requests. -/
  requests : result.asked screens ≤ session.asked screens + requests

namespace Spends

variable {screens : List (String × Screen)} {work otherWork : (Node → Nat) → Nat}
  {requests otherRequests : Nat} {session middle result : Session}

theorem refl (session : Session) : Spends screens (fun _ => 0) 0 session session where
  commands _ := Nat.le_refl _
  requests := Nat.le_refl _

theorem trans
    (first : Spends screens work requests session middle)
    (second : Spends screens otherWork otherRequests middle result) :
    Spends screens (fun weight => work weight + otherWork weight) (requests + otherRequests)
      session result where
  commands weight := by
    have := first.commands weight
    have := second.commands weight
    omega
  requests := by
    have := first.requests
    have := second.requests
    omega

/-- A greater budget suffices too. -/
theorem within
    (spends : Spends screens work requests session result)
    (cheaper : ∀ weight, work weight ≤ otherWork weight)
    (fewer : requests ≤ otherRequests) :
    Spends screens otherWork otherRequests session result where
  commands weight := Nat.le_trans (spends.commands weight) (Nat.add_le_add_left (cheaper weight) _)
  requests := Nat.le_trans spends.requests (Nat.add_le_add_left fewer _)

end Spends

/-- An operation that takes a bound on the levels of nesting, ends where the bound is large enough,
always in the same way, and is paid from a budget. -/
def Ends
    (screens : List (String × Screen))
    (limit least : Nat)
    (work : (Node → Nat) → Nat)
    (requests : Nat)
    (operation : Nat → Session → Option Session) : Prop :=
  ∀ session : Session, session.Ready screens limit →
    ∃ result, (∀ bound, least ≤ bound → operation bound session = some result) ∧
      result.Ready screens limit ∧ Spends screens work requests session result

namespace Ends

variable {screens : List (String × Screen)} {limit least : Nat}
  {work otherWork : (Node → Nat) → Nat} {requests otherRequests : Nat}
  {operation : Nat → Session → Option Session}

theorem within
    (ends : Ends screens limit least work requests operation)
    (cheaper : ∀ weight, work weight ≤ otherWork weight)
    (fewer : requests ≤ otherRequests) :
    Ends screens limit least otherWork otherRequests operation := by
  intro session ready
  obtain ⟨result, finished, readyAfter, spends⟩ := ends session ready
  exact ⟨result, finished, readyAfter, spends.within cheaper fewer⟩

theorem of_eq
    {other : Nat → Session → Option Session}
    (ends : Ends screens limit least work requests operation)
    (same : ∀ bound session, other bound session = operation bound session) :
    Ends screens limit least work requests other := by
  obtain rfl : other = operation := funext fun bound => funext (same bound)
  exact ends

/-- An operation that touches neither variables nor requests and puts nothing on record. -/
theorem idle
    {operation : Session → Session}
    (context : ∀ session, (operation session).context = session.context)
    (screensSame : ∀ session, (operation session).screens = session.screens)
    (exchange : ∀ session, (operation session).exchange = session.exchange)
    (deeds : ∀ session, (operation session).deeds = session.deeds) :
    Ends screens limit least (fun _ => 0) 0 fun _ session => some (operation session) := by
  intro session ready
  refine ⟨operation session, fun _ _ => rfl, ?_, ?_⟩
  · constructor
    · rw [context]
      exact ready.quiet
    · rw [screensSame]
      exact ready.known
    · rw [exchange]
      exact ready.balanced
    · rw [exchange]
      exact ready.shallow
  · constructor
    · intro weight
      simp only [spent, earned, exchange, deeds]
      exact Nat.le_refl _
    · simp only [asked, exchange]
      exact Nat.le_refl _

theorem stay : Ends screens limit least (fun _ => 0) 0 fun _ => some :=
  idle (fun _ => rfl) (fun _ => rfl) (fun _ => rfl) (fun _ => rfl)

theorem andThen
    {second : Nat → Session → Option Session}
    (ends : Ends screens limit least work requests operation)
    (endsSecond : Ends screens limit least otherWork otherRequests second) :
    Ends screens limit least (fun weight => work weight + otherWork weight)
      (requests + otherRequests) fun bound session => operation bound session >>= second bound := by
  intro session ready
  obtain ⟨middle, started, readyMiddle, spends⟩ := ends session ready
  obtain ⟨result, finished, readyAfter, spendsSecond⟩ := endsSecond middle readyMiddle
  refine ⟨result, fun bound enough => ?_, readyAfter, spends.trans spendsSecond⟩
  simp only [started bound enough]
  exact finished bound enough

/-- What follows a look at the session that changes nothing but the parsed paths. -/
theorem after
    {α : Type}
    (look : Session → α × Session)
    {next : α → Nat → Session → Option Session}
    (same : ∀ session, ∃ paths, (look session).2 = { session with paths := paths })
    (each : ∀ value, Ends screens limit least work requests (next value)) :
    Ends screens limit least work requests fun bound session =>
      next (look session).1 bound (look session).2 := by
  intro session ready
  obtain ⟨paths, remembered⟩ := same session
  have readyAfter : Ready screens limit { session with paths := paths } :=
    ⟨ready.quiet, ready.known, ready.balanced, ready.shallow⟩
  obtain ⟨result, finished, readyLast, spends⟩ := each (look session).1 _ readyAfter
  refine ⟨result, fun bound enough => ?_, readyLast, ⟨spends.commands, spends.requests⟩⟩
  simp only [remembered]
  exact finished bound enough

theorem update (update : Update) :
    Ends screens limit least (fun _ => 0) 0 fun bound session => session.update bound update := by
  intro session ready
  refine ⟨_, fun bound _ => update_of_quiet bound update ready.quiet, ?_, ?_⟩
  · exact ⟨ready.quiet.revise update, ready.known, ready.balanced, ready.shallow⟩
  · exact ⟨fun _ => Nat.le_refl _, Nat.le_refl _⟩

theorem assign
    (evaluator : Evaluator)
    (index : Option Nat)
    (path : String)
    (value : Node) :
    Ends screens limit least (fun _ => 0) 0 fun bound session =>
      (session.assign evaluator bound index path value).map Prod.snd := by
  intro session ready
  have readyParsed : (session.parsed evaluator index path).Ready screens limit :=
    ⟨ready.quiet, ready.known, ready.balanced, ready.shallow⟩
  simp only [map_snd_assign]
  cases session.placed? evaluator index path value with
  | none =>
      exact ⟨_, fun _ _ => rfl, readyParsed, fun _ => Nat.le_refl _, Nat.le_refl _⟩
  | some place =>
      obtain ⟨result, finished, readyAfter, spends⟩ := update place _ readyParsed
      exact ⟨result, finished, readyAfter, spends.commands, spends.requests⟩

end Ends
end Session
end Storyboard
