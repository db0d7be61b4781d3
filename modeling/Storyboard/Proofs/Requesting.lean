import Storyboard.Interpreter
import Storyboard.Proofs.Web.Accounts
import Storyboard.Proofs.Web.Drafts

/-!
# The three ends of the command that issues a request

The command that issues a request comes to exactly one of three ends.  Without an address
it is dropped, whatever is wrong besides.  Any other fault is told to the events of the
payload before the command returns, and no request is issued for it.  Otherwise one
request waits that did not, and nothing else happens.
-/

namespace Storyboard
namespace Web

/-- What does not count as an address: no text, a blank text, or one that cannot be parsed, unless
it is relative with a slash in front. -/
inductive Rules.Unaddressed (rules : Rules) : Node → Prop where
  /-- There is no text. -/
  | noText {url : Node} (other : ∀ text, url ≠ .string text) : rules.Unaddressed url
  /-- There is nothing but blanks. -/
  | blank {text : String} (blank : Text.isBlankText text = true) : rules.Unaddressed (.string text)
  /-- The parser refuses the text. -/
  | unparsed {text : String} {error : UrlError}
      (refused : rules.url (Text.trim text) = .error error)
      (noPath : ¬(error = .relative ∧ (Text.trim text).toList.head? = some '/')) :
      rules.Unaddressed (.string text)

namespace Rules

variable {rules : Rules} {node : Node} {error : RequestError}

/-- The address is at fault without a word exactly where there is none. -/
theorem unaddressed_iff :
    rules.Unaddressed node ↔
      ∃ error, rules.address node = .error error ∧ error.isSilent = true := by
  constructor
  · intro unaddressed
    cases unaddressed with
    | noText other =>
        cases node with
        | string text => exact absurd rfl (other text)
        | null | bool | number | sequence | mapping => exact ⟨.missingUrl, rfl, rfl⟩
    | @blank text blank =>
        exact ⟨.missingUrl, by simp [address, blank], rfl⟩
    | @unparsed text urlError refused noPath =>
        by_cases blank : Text.isBlankText text = true
        · exact ⟨.missingUrl, by simp [address, blank], rfl⟩
        · exact ⟨_, by simp only [address, blank, refused, noPath]; rfl, rfl⟩
  · rintro ⟨error, fault, silent⟩
    cases node with
    | null | bool | number | sequence | mapping =>
        exact .noText fun _ impossible => by cases impossible
    | string text =>
        by_cases blank : Text.isBlankText text = true
        · exact .blank blank
        · rw [address, if_neg blank] at fault
          dsimp only at fault
          split at fault
          · cases fault
          · cases fault
            cases silent
          · next urlError refused =>
              split at fault
              · cases fault
                cases silent
              · next noPath => exact .unparsed refused noPath

end Rules

namespace Rules

variable {rules : Rules} {value : String → Node}

/-- A draft that comes to a request has an address. -/
theorem not_unaddressed_of_reading
    {request : Request}
    (sound : rules.reading value = .ok request) :
    ¬rules.Unaddressed (value "url") := by
  rw [unaddressed_iff]
  rintro ⟨error, fault, _⟩
  unfold reading at sound
  rw [fault] at sound
  cases sound

end Rules
end Web

namespace Session

/-- A session becomes another by issuing one request, and nothing else happens. -/
structure Issues
    (session : Session)
    (request : Web.Request)
    (pending : Web.Pending)
    (result : Session) : Prop where
  /-- The variables, the screens, the store, the log, what is remembered of paths and the record of
  deeds stay. -/
  unchanged : result = { session with exchange := result.exchange }
  /-- The request waits under the next number, behind those that wait already. -/
  waits : result.exchange.pending = session.exchange.pending ++ [(session.exchange.nextId, pending)]
  /-- So one request more waits. -/
  oneMore : result.exchange.inFlight = session.exchange.inFlight + 1
  /-- The next number is another one. -/
  numbered : result.exchange.nextId = session.exchange.nextId + 1
  /-- The request is noted with its number and with what is to be done when it ends. -/
  noted : result.exchange.ledger.issued =
    session.exchange.ledger.issued ++ [(session.exchange.nextId, request, pending)]
  /-- Nothing is sent or collected meanwhile, and whether anything can be sent stays. -/
  idle : result.exchange.sent = session.exchange.sent ∧
    result.exchange.ledger.collected = session.exchange.ledger.collected ∧
      result.exchange.online = session.exchange.online
  /-- The request is being sent or, where none can be sent, its failure has arrived. -/
  underWay :
    if session.exchange.online then
      result.exchange.sending =
          session.exchange.sending ++ [(session.exchange.nextId, request)] ∧
        result.exchange.arrived = session.exchange.arrived ∧
          result.exchange.ledger.answers = session.exchange.ledger.answers
    else
      result.exchange.sending = session.exchange.sending ∧
        result.exchange.arrived =
            session.exchange.arrived ++ [(session.exchange.nextId, .error .offline)] ∧
          result.exchange.ledger.answers = session.exchange.ledger.answers ++
            [(session.exchange.nextId, request, .error .offline)]

/-- What issuing a request does to a session. -/
theorem issues_issue
    (session : Session)
    (request : Web.Request)
    (pending : Web.Pending) :
    session.Issues request pending (session.issue request pending) where
  unchanged := rfl
  waits := rfl
  oneMore := session.exchange.inFlight_issue request pending
  numbered := session.exchange.nextId_issue request pending
  noted := rfl
  idle := ⟨rfl, rfl, rfl⟩
  underWay := by
    cases online : session.exchange.online <;> simp [issue, Web.Exchange.issue, online]

end Session

namespace Command

/-- Whether a payload is passed over: it is no mapping, or its address does not count as one. -/
def Dropped (frame : Frame) (payload : Node) (session : Session) : Prop :=
  payload.asMapping? = none ∨ frame.rules.Unaddressed (session.field frame payload "url")

/-- A draft that comes to a request is not passed over, since no field can be read of a payload that
is no mapping. -/
theorem not_dropped_of_reading
    {frame : Frame}
    {payload : Node}
    {session : Session}
    {request : Web.Request}
    (sound : frame.rules.reading (session.field frame payload) = .ok request) :
    ¬Dropped frame payload session := by
  have addressed := Web.Rules.not_unaddressed_of_reading sound
  rintro (noMapping | unaddressed)
  · cases payload with
    | mapping => cases noMapping
    | null | bool | number | string | sequence =>
        exact addressed (.noText fun _ impossible => by cases impossible)
  · exact addressed unaddressed

/-- The ends of the command that issues a request.  Which one it is depends on what the fields of
the payload are evaluated to, and the causes exclude each other. -/
inductive Requests (frame : Frame) (payload : Node) (session : Session) :
    Option Session → Prop where
  /-- Nothing happens but that paths are remembered. -/
  | dropped {paths : Path.Cache} (cause : Dropped frame payload session) :
      Requests frame payload session (some { session with paths := paths })
  /-- The first fault is told to `onError`, then `onFinally` is handled, and that is all. -/
  | failed {paths : Path.Cache} {error : Web.RequestError}
      (addressed : ¬Dropped frame payload session)
      (fault : frame.rules.reading (session.field frame payload) = .error error) :
      Requests frame payload session
        (frame.handleDuring frame.settings.errorVariable (error.report none)
            (Web.presentField payload "onError") { session with paths := paths } >>=
          frame.handle? (Web.presentField payload "onFinally"))
  /-- One request waits under a number of its own, and nothing else happens but that paths are
  remembered: `Session.issues_issue` says what is issued and what stays. -/
  | issued {paths : Path.Cache} {request : Web.Request}
      (addressed : ¬Dropped frame payload session)
      (sound : frame.rules.reading (session.field frame payload) = .ok request)
      (fresh : session.exchange.Reachable →
        session.exchange.nextId ∉ Web.ids session.exchange.pending ∧
          session.exchange.nextId ∉ Web.ids session.exchange.ledger.issued) :
      Requests frame payload session
        (some (Session.issue { session with paths := paths } request
          ⟨.ofPayload payload, target? (session.field frame payload "var"), frame.index⟩))

/-- A draft that comes to a request leaves the third end only: that request is issued, and nothing
else happens but that paths are remembered. -/
theorem Requests.issues_of_reading
    {frame : Frame}
    {payload : Node}
    {session : Session}
    {result? : Option Session}
    (ends : Requests frame payload session result?)
    {request : Web.Request}
    (sound : frame.rules.reading (session.field frame payload) = .ok request) :
    ∃ paths result, result? = some result ∧
      Session.Issues { session with paths := paths } request
        ⟨.ofPayload payload, target? (session.field frame payload "var"), frame.index⟩ result := by
  cases ends with
  | dropped cause => exact absurd cause (not_dropped_of_reading sound)
  | failed _ fault =>
      rw [sound] at fault
      cases fault
  | @issued paths other _ drafted _ =>
      obtain rfl : request = other := Except.ok.inj (sound.symm.trans drafted)
      exact ⟨paths, _, rfl, Session.issues_issue _ _ _⟩

end Command

namespace Web

/-- The next number was given to no request yet. -/
theorem Exchange.Reachable.fresh
    {exchange : Exchange}
    (reachable : exchange.Reachable) :
    exchange.nextId ∉ ids exchange.pending ∧ exchange.nextId ∉ ids exchange.ledger.issued := by
  have balanced := reachable.balanced
  constructor
  · exact fun member => Nat.lt_irrefl _ (balanced.orderly.below exchange.nextId member)
  · rw [balanced.numbered]
    exact fun member => Nat.lt_irrefl _ (List.mem_range.mp member)

end Web

namespace Command

/-- With a faulty method besides, an address that cannot be parsed is passed over, one that is
relative with a slash in front is told to the events. -/
example :
    let line (text : String) : Node := .mapping [("log", .string text)]
    let lines (url : String) : Option (List String × Nat) :=
      (request (Interpreter.outerFrame {} none 1)
        (.mapping [("url", .string url), ("method", .string "NO METHOD"), ("onError", line "error"),
          ("onFinally", line "end")]) {}).map fun session =>
            (session.lines, session.exchange.inFlight)
    lines "rows" = some ([], 0) ∧ lines "/rows" = some (["error", "end"], 0) := by
  decide +kernel

end Command
end Storyboard
