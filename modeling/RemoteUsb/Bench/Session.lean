import RemoteUsb.Bench.Call

/-!
A session on the bench. It makes its manager when that is first asked for, tries again if the manager
could not begin, and shuts the manager down when it ends.
-/
namespace RemoteUsb.Bench

structure Session where
  stand : Stand
  settings : Settings
  /-- Whether the session goes on. -/
  alive : Bool := true
  /-- Whether it has a manager that began well. -/
  hasManager : Bool := false

namespace Session

def onStand {α : Type} (act : Trial α) (s : Session) : α × Session :=
  let (answer, stand) := act s.stand
  (answer, { s with stand })

/-- The manager of the session, made by the first call. One that cannot begin is shut down, and the
next call makes another. -/
def get (s : Session) : Option (Except RedirectError Unit) × Session :=
  if !s.alive then (none, s)
  else if s.hasManager then (some (.ok ()), s)
  else
    let fresh : Stand := { s.stand with manager :=
      { Manager.new s.stand.backend.addressing s.settings with nextTask := s.stand.manager.nextTask } }
    let (result, s) := onStand (call fun _ => Manager.start) { s with stand := fresh }
    match result with
    | some (.ok ()) => (result, { s with hasManager := true })
    | _ =>
      let (_, s) := onStand (step Manager.shutdown) s
      (result, s)

/-- Ends the session; answers whether it went on before. -/
def drop (s : Session) : Bool × Session :=
  if s.alive then
    let (_, s) := if s.hasManager then onStand (step Manager.shutdown) s else ((), s)
    (true, { s with alive := false })
  else (false, s)

/-- Does something with the manager of a session. There is nothing without the session, and nothing
again without a manager. -/
def ask {α : Type} (act : Trial α) (s : Session) : Option (Option α) × Session :=
  if !s.alive then (none, s)
  else if !s.hasManager then (some none, s)
  else
    let (answer, s) := onStand act s
    (some (some answer), s)

def connected (s : Session) : Nat :=
  s.stand.manager.registry.devices.countP fun d => s.stand.manager.isConnected d.key

end Session
end RemoteUsb.Bench
