import DoubleEntry.Proofs.Program.Play
import DoubleEntry.Sql.Store

/-!
The ledger's store over a link to any server whatsoever. A server may give any reply to anything that it is sent,
to what frames a unit of work too. A unit of work whose end fails is dropped, which sends one more rollback. What
is kept of a link is what was sent over it with the replies, in order.
-/

set_option autoImplicit false

namespace DoubleEntry.Sql

open Time (Stamp)

structure Server (σ : Type) where
  reply : σ → Sent → Reply × σ
  clock : σ → Stamp × σ

structure Link (σ : Type) where
  state : σ
  exchanges : List (Sent × Reply)

namespace Link

variable {σ : Type} (server : Server σ)

def send (link : Link σ) (x : Sent) : Link σ :=
  ⟨(server.reply link.state x).2, link.exchanges ++ [(x, (server.reply link.state x).1)]⟩

-- A unit of work is dropped if its end fails.
def settled (link : Link σ) (fails : Bool) : Link σ := if fails then link.send server .startRollback else link

def answer (link : Link σ) (c : Call) : Except StoreError c.Reply × Link σ :=
  let answer := received c (server.reply link.state (wire c)).1
  (answer, (link.send server (wire c)).settled server (c.isEnd && !answer.isOk))

def store : AnyStore (Link σ) where
  answer link c := link.answer server c
  clock link := ((server.clock link.state).1, { link with state := (server.clock link.state).2 })

end Link

inductive Sends : List Exchange → List (Sent × Reply) → Prop
  | nil : Sends [] []
  | call (c : Call) (reply : Reply) (calls : List Exchange) (sent : List (Sent × Reply))
      (goesOn : c.isEnd = false ∨ (received c reply).isOk = true) (rest : Sends calls sent) :
      Sends (⟨c, received c reply⟩ :: calls) ((wire c, reply) :: sent)
  | dropped (c : Call) (reply second : Reply) (calls : List Exchange) (sent : List (Sent × Reply))
      (isEnd : c.isEnd = true) (fails : (received c reply).isOk = false) (rest : Sends calls sent) :
      Sends (⟨c, received c reply⟩ :: calls) ((wire c, reply) :: (.startRollback, second) :: sent)

section Lines

variable {σ α : Type} (server : Server σ)

theorem link_answer (link : Link σ) (c : Call) : ∃ reply, (link.answer server c).1 = received c reply ∧
    ((c.isEnd = false ∨ (received c reply).isOk = true) ∧
        (link.answer server c).2.exchanges = link.exchanges ++ [(wire c, reply)] ∨
      c.isEnd = true ∧ (received c reply).isOk = false ∧ ∃ second,
        (link.answer server c).2.exchanges = link.exchanges ++ [(wire c, reply), (.startRollback, second)]) := by
  refine ⟨(server.reply link.state (wire c)).1, rfl, ?_⟩
  change _ ∧ ((link.send server (wire c)).settled server _).exchanges = _ ∨
    _ ∧ _ ∧ ∃ second, ((link.send server (wire c)).settled server _).exchanges = _
  cases fails : (c.isEnd && !(received c (server.reply link.state (wire c)).1).isOk) with
  | true =>
      obtain ⟨isEnd, bad⟩ := (Bool.and_eq_true _ _).mp fails
      exact .inr ⟨isEnd, by simpa using bad, _, List.append_assoc _ [_] [_]⟩
  | false =>
      refine .inl ⟨?_, rfl⟩
      cases isEnd : c.isEnd with
      | false => exact .inl rfl
      | true => exact .inr (by simpa [isEnd] using fails)

theorem play_sends (p : Program α) (link : Link σ) :
    ∃ sent, (p.play (Link.store server) link).state.exchanges = link.exchanges ++ sent ∧
      Sends (p.play (Link.store server) link).trace sent := by
  induction p generalizing link with
  | done a => exact ⟨[], (List.append_nil _).symm, .nil⟩
  | log text rest ih => exact ih link
  | clock next ih => exact ih _ _
  | call c next ih =>
      obtain ⟨reply, answered, made⟩ := link_answer server link c
      obtain ⟨sent, exchanges, sends⟩ := ih (link.answer server c).1 (link.answer server c).2
      change ∃ sent,
        ((next (link.answer server c).1).play (Link.store server) (link.answer server c).2).state.exchanges =
          link.exchanges ++ sent ∧
        Sends (⟨c, (link.answer server c).1⟩ ::
          ((next (link.answer server c).1).play (Link.store server) (link.answer server c).2).trace) sent
      rw [exchanges]
      generalize ((next (link.answer server c).1).play (Link.store server) (link.answer server c).2).trace =
        calls at sends
      rw [answered]
      rcases made with ⟨goesOn, made⟩ | ⟨isEnd, fails, second, made⟩
      · exact ⟨_, by rw [made, List.append_assoc, List.singleton_append], .call c reply calls sent goesOn sends⟩
      · exact ⟨_, by rw [made, List.append_assoc]; rfl, .dropped c reply second calls sent isEnd fails sends⟩

end Lines

-- A connection with given replies is a server like any other.
def scripted : Server Connection where
  reply conn x := conn.exchange x
  clock conn := (conn.clock, conn)

theorem exchange_log (conn : Connection) (log : List LogLine) (x : Sent) :
    Connection.exchange { conn with log } x = ((conn.exchange x).1, { (conn.exchange x).2 with log }) := by
  obtain ⟨replies, sent, clock, lines⟩ := conn
  cases x with
  | query style s | execute style s => cases replies <;> rfl
  | begin | commit | rollback | startRollback => rfl

theorem scripted_answer (conn : Connection) (exchanges : List (Sent × Reply)) (c : Call) :
    ∃ more, Link.answer scripted ⟨conn, exchanges⟩ c = ((conn.answer c).1, ⟨(conn.answer c).2, more⟩) := by
  have fine : (c.isEnd && !(received c (conn.exchange (wire c)).1).isOk) = false := by
    cases c <;> rfl
  refine ⟨exchanges ++ [(wire c, (conn.exchange (wire c)).1)], ?_⟩
  change (_, Link.settled scripted _ (c.isEnd && !(received c (conn.exchange (wire c)).1).isOk)) = _
  rw [fine]
  rfl

theorem connection_plays {α : Type} (p : Program α) (conn : Connection) (exchanges : List (Sent × Reply))
    (log : List LogLine) :
    ∃ later, Connection.run p { conn with log } =
      ((p.play (Link.store scripted) ⟨conn, exchanges⟩).answer,
        { (p.play (Link.store scripted) ⟨conn, exchanges⟩).state.state with log := later }) := by
  induction p generalizing conn exchanges log with
  | done a => exact ⟨log, rfl⟩
  | log line rest ih => exact ih conn exchanges (line :: log)
  | clock next ih => exact ih conn.clock conn exchanges log
  | call c next ih =>
      obtain ⟨more, answered⟩ := scripted_answer conn exchanges c
      obtain ⟨later, ran⟩ := ih (conn.answer c).1 (conn.answer c).2 more log
      refine ⟨later, ?_⟩
      have step : ((Program.call c next).play (Link.store scripted) ⟨conn, exchanges⟩).answer =
            ((next (conn.answer c).1).play (Link.store scripted) ⟨(conn.answer c).2, more⟩).answer ∧
          ((Program.call c next).play (Link.store scripted) ⟨conn, exchanges⟩).state =
            ((next (conn.answer c).1).play (Link.store scripted) ⟨(conn.answer c).2, more⟩).state := by
        change ((next (Link.answer scripted _ c).1).play (Link.store scripted) (Link.answer scripted _ c).2).answer =
          _ ∧
          ((next (Link.answer scripted _ c).1).play (Link.store scripted) (Link.answer scripted _ c).2).state = _
        rw [answered]
        exact ⟨rfl, rfl⟩
      rw [step.1, step.2, ← ran, Connection.run, Connection.answer, exchange_log]
      rfl

end DoubleEntry.Sql
