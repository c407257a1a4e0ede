import RpcTransport.Session.CallRegistry

/-!
What is done to the calls that wait for an answer: they are registered, taken out, answered and
forgotten, by id or by a guard, and their callers look for the answers or go away, in any order.
-/

namespace RpcTransport

/-- A registry of calls with its guards. A guard forgets the call of an id when it is dropped. -/
structure GuardedRegistry where
  registry : CallRegistry := {}
  /-- The ids of the guards, by number; a guard that was dropped has none. -/
  guards : List (Option String) := []

namespace GuardedRegistry

/-- Sets up a guard of an id and tells its number. -/
def guard (id : String) (desk : GuardedRegistry) : Nat × GuardedRegistry :=
  (desk.guards.length, { desk with guards := desk.guards ++ [some id] })

/-- Drops a guard. -/
def dropGuard (number : Nat) (desk : GuardedRegistry) : GuardedRegistry :=
  match desk.guards[number]?.join with
  | none => desk
  | some id => { registry := desk.registry.cancel id, guards := desk.guards.set number none }

/-- Something that is done to a registry, or by a caller that is registered. -/
inductive Act
  | register (id : String) (subscription : Option Subscription)
  | take (id : String)
  /-- Answers a call that was taken out. -/
  | reply (call : Nat) (answer : Envelope)
  /-- Drops a call that was taken out. -/
  | release (call : Nat)
  | cancel (id : String)
  | guard (id : String)
  | dropGuard (number : Nat)
  | clear
  /-- A caller looks for its answer. -/
  | poll (call : Nat)
  /-- A caller goes away. -/
  | hangUp (call : Nat)

/-- What comes of an act for whoever has done it. -/
inductive Reply
  | registered (call : Nat)
  | took (found : Option Awaited)
  | replied (delivered : Bool)
  | guarded (number : Nat)
  | cleared (count : Nat)
  | polled (seen : Polled)
  | done

/-- Does something, and tells what comes of it. -/
def act (desk : GuardedRegistry) : Act → Reply × GuardedRegistry
  | .register id subscription =>
    let (call, registry) := desk.registry.register id subscription
    (.registered call, { desk with registry := registry })
  | .take id =>
    let (found, registry) := desk.registry.take id
    (.took found, { desk with registry := registry })
  | .reply call answer =>
    (.replied (desk.registry.taken.any (·.call == call) && desk.registry.listens call),
      { desk with registry := desk.registry.reply call answer })
  | .release call => (.done, { desk with registry := desk.registry.release call })
  | .cancel id => (.done, { desk with registry := desk.registry.cancel id })
  | .guard id =>
    let (number, desk) := desk.guard id
    (.guarded number, desk)
  | .dropGuard number => (.done, desk.dropGuard number)
  | .clear => (.cleared desk.registry.count, { desk with registry := desk.registry.clear })
  | .poll call =>
    let (seen, registry) := desk.registry.poll call
    (.polled seen, { desk with registry := registry })
  | .hangUp call => (.done, { desk with registry := desk.registry.hangUp call })

/-- What has been done, the latest first, and what came of it. -/
abbrev Past := List (Act × Reply)

/-- The past and the registry after one more act. -/
def proceed (scene : Past × GuardedRegistry) (act : Act) : Past × GuardedRegistry :=
  ((act, (scene.2.act act).1) :: scene.1, (scene.2.act act).2)

/-- The past and the registry after some acts, from an empty one on. -/
def play (acts : List Act) : Past × GuardedRegistry :=
  acts.foldl proceed ([], {})

end GuardedRegistry

end RpcTransport
