import LibddRc.Crypto.Identifiers

/-! `handle_connection_events`: one handler for the lifecycle updates of every
connection of an instance. It keeps a single active connection, and while it
stops an actor it takes no further update. -/

set_option autoImplicit false

namespace LibddRc

/-- A lifecycle update as the handler sees it. Only `Connected` tells which
connection it is about, by the handles it brings. -/
inductive Update
  | init
  | connected (io : Nat)
  | disconnected
  | release
  deriving DecidableEq

/-- `stopping` waits inside `ActiveConn::stop` for the actor to end, `last` when
the handler returns after that. -/
inductive HandlerPc
  | waiting
  | stopping (actor : Nat) (last : Bool)
  | returned
  deriving DecidableEq

structure EventHandler where
  pc : HandlerPc
  activeConn : Option Nat
  deriving DecidableEq

inductive HandlerEffect
  | spawn (actor : Nat)
  | cancel (actor : Nat)
  deriving DecidableEq

namespace EventHandler

def init : EventHandler := ⟨.waiting, none⟩

/-- One update, up to the wait for an actor it replaces or takes down. -/
def onUpdate (handler : EventHandler) : Update → EventHandler × List HandlerEffect
  | .init | .release => (handler, [])
  | .connected io =>
      match handler.activeConn with
      | none => ({ handler with activeConn := some io }, [.spawn io])
      | some old => (⟨.stopping old false, some io⟩, [.spawn io, .cancel old])
  | .disconnected =>
      match handler.activeConn with
      | none => (handler, [])
      | some old => (⟨.stopping old false, none⟩, [.cancel old])

/-- The shutdown signal, or the end of the stream of updates. -/
def onClose (handler : EventHandler) : EventHandler × List HandlerEffect :=
  match handler.activeConn with
  | none => (⟨.returned, none⟩, [])
  | some old => (⟨.stopping old true, none⟩, [.cancel old])

/-- The awaited actor has ended. -/
def onStopped (handler : EventHandler) (last : Bool) : EventHandler :=
  { handler with pc := if last then .returned else .waiting }

end EventHandler

end LibddRc
