import RpcTransport.Config.Basic
import RpcTransport.Message.Request

/-!
Windows, in which requests are gathered into batches. At most one window is open. A request joins
it, or opens one if there is none; the window is taken when it is full or when the alarm set for it
rings. An alarm knows its window by the window's generation, so that one that rings late leaves a
newer window alone.
-/

namespace RpcTransport.Gathering

/-- When a window is sent. -/
structure Limits where
  /-- The milliseconds from the opening of a window to its alarm. -/
  wait : Nat
  /-- The number of requests that fill a window, if there is one. -/
  maxSize : Option Nat

/-- The limits that a configuration sets, if it can work. -/
def Limits.ofConfig (config : BatchConfig) : Outcome Limits := do
  config.validate
  return ⟨config.wait, config.sizeLimit⟩

/-- Whether so many requests fill a window. -/
def Limits.isFull (limits : Limits) (size : Nat) : Bool :=
  limits.maxSize.any (· ≤ size)

/-- Requests that are sent together, in the order in which they joined. -/
structure Window where
  generation : Nat
  requests : List Request

/-- The open window, if there is one. -/
structure Gatherer where
  window : Option Window := none
  /-- The generation of the next window. -/
  nextGeneration : Nat := 0

/-- A request's place in a window. -/
structure Ticket where
  generation : Nat
  position : Nat
  deriving DecidableEq

/-- What follows from a request's joining. -/
structure Joined where
  ticket : Ticket
  /-- The generation of the window that the request has opened. An alarm must be set for it. -/
  opened : Option Nat
  /-- The window that the request has filled. It must be sent. -/
  filled : Option Window

namespace Gatherer

/-- Puts a request into the open window, or into a new one. -/
def join (limits : Limits) (request : Request) (gatherer : Gatherer) : Joined × Gatherer :=
  let window := gatherer.window.getD ⟨gatherer.nextGeneration, []⟩
  let opened := if gatherer.window.isNone then some window.generation else none
  let nextGeneration := gatherer.nextGeneration + (if gatherer.window.isNone then 1 else 0)
  let ticket : Ticket := ⟨window.generation, window.requests.length⟩
  let window := { window with requests := window.requests ++ [request] }
  if limits.isFull window.requests.length then
    (⟨ticket, opened, some window⟩, ⟨none, nextGeneration⟩)
  else
    (⟨ticket, opened, none⟩, ⟨some window, nextGeneration⟩)

/-- Takes the open window if it is the one of this generation. -/
def wake (generation : Nat) (gatherer : Gatherer) : Option Window × Gatherer :=
  match gatherer.window with
  | some window =>
    if window.generation = generation then (some window, { gatherer with window := none })
    else (none, gatherer)
  | none => (none, gatherer)

end Gatherer

end RpcTransport.Gathering
