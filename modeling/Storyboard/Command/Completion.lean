import Storyboard.Command

/-!
# The end of a request

A response of success is written to the path that the request names, and its event
is handled; any other end has another event; one more event comes last in any case.
While the first event is handled, variables tell of the response and of the error;
afterwards they are as they were before.
-/

namespace Storyboard
namespace Frame

/-- Do something while a variable has a value, and restore the variable afterwards. -/
def during (frame : Frame) (name : String) (value : Node) (body : Session → Option Session)
    (session : Session) : Option Session := do
  let previous := session.context.get? name
  let session ← session.update frame.bound ⟨name, some value⟩
  let session ← body session
  session.update frame.bound ⟨name, previous⟩

/-- Handle an event, if there is one, while a variable has a value. -/
def handleDuring (frame : Frame) (name : String) (value : Node) (event : Option Node)
    (session : Session) : Option Session :=
  match event with
  | some event => frame.during name value (frame.handle event) session
  | none => some session

/-- Write the body of a response to the path that a request names. -/
def keep (frame : Frame) (target : Option String) (response : Web.Response) (session : Session) :
    Option Session :=
  match target with
  | some path =>
      (session.assign frame.evaluator frame.bound frame.index path
        (Web.decodeBody response.body)).map Prod.snd
  | none => some session

/-- Keep what the response of a request brings, if it is one of success. -/
def keepOutcome (frame : Frame) (pending : Web.Pending) (outcome : Web.Outcome)
    (session : Session) : Option Session :=
  match outcome with
  | .ok response =>
      if Web.isSuccess response.status then frame.keep pending.target response session
      else some session
  | .error _ => some session

/-- Handle the event of an outcome while variables tell of the response and of the error. -/
def callBack (frame : Frame) (callbacks : Web.Callbacks) (outcome : Web.Outcome)
    (session : Session) : Option Session :=
  match outcome with
  | .ok response =>
      if Web.isSuccess response.status then
        frame.handleDuring frame.settings.responseVariable response.metadata callbacks.onSuccess
          session
      else
        match callbacks.onError with
        | none => some session
        | some event =>
            frame.during frame.settings.responseVariable response.metadata
              (frame.during frame.settings.errorVariable
                ((Web.RequestError.status response.status).report (some response))
                (frame.handle event))
              session
  | .error error =>
      frame.handleDuring frame.settings.errorVariable (error.report none) callbacks.onError
        session

/-- The first part of the end of a request: all but the event that comes last. -/
def settleOutcome (frame : Frame) (pending : Web.Pending) (outcome : Web.Outcome)
    (session : Session) : Option Session := do
  let session ← frame.keepOutcome pending outcome session
  frame.callBack pending.callbacks outcome session

/-- The end of a request; the frame is in the loop row in which it was issued. -/
def complete (frame : Frame) (pending : Web.Pending) (outcome : Web.Outcome)
    (session : Session) : Option Session := do
  let session ← frame.settleOutcome pending outcome session
  frame.handle? pending.callbacks.onFinally session

end Frame
end Storyboard
