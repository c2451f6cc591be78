import DoubleEntry.Proofs.Program.Conduct
import DoubleEntry.Store.Scripted

/-!
A program on any store whatsoever. The store is a machine that may give any reply to any call and show any time,
and what is kept of a run is the calls with their replies, in order.
-/

set_option autoImplicit false

namespace DoubleEntry

open Time (Stamp)

structure AnyStore (σ : Type) where
  answer : σ → (c : Call) → Except StoreError c.Reply × σ
  clock : σ → Stamp × σ

structure Exchange where
  call : Call
  reply : Except StoreError call.Reply

structure Played (σ α : Type) where
  answer : α
  trace : List Exchange
  state : σ

namespace Program

variable {σ α β : Type}

def play (store : AnyStore σ) : Program α → σ → Played σ α
  | .done a, s => ⟨a, [], s⟩
  | .log _ rest, s => rest.play store s
  | .clock next, s => (next (store.clock s).1).play store (store.clock s).2
  | .call c next, s =>
    let rest := (next (store.answer s c).1).play store (store.answer s c).2
    { rest with trace := ⟨c, (store.answer s c).1⟩ :: rest.trace }

theorem play_closes (store : AnyStore σ) (p : Program α) (a : α) (s : σ) (closes : p.Closes a) :
    p.play store s = ⟨a, [], s⟩ := by
  induction closes with
  | done a => rfl
  | log line rest a _ ih => exact ih

theorem play_bind (store : AnyStore σ) (p : Program α) (f : α → Program β) (s : σ) :
    (p.bind f).play store s =
      { (f (p.play store s).answer).play store (p.play store s).state with
        trace := (p.play store s).trace ++ ((f (p.play store s).answer).play store (p.play store s).state).trace } := by
  induction p generalizing s with
  | done a => rfl
  | log line rest ih => exact ih s
  | clock next ih => exact ih _ _
  | call c next ih =>
      simp only [bind, play, ih, List.cons_append]

theorem play_bind_closes (store : AnyStore σ) (p : Program α) (f : α → Program β) (g : α → β) (s : σ)
    (closing : ∀ a, (f a).Closes (g a)) :
    (p.bind f).play store s = ⟨g (p.play store s).answer, (p.play store s).trace, (p.play store s).state⟩ := by
  rw [play_bind, play_closes store _ _ _ (closing _), List.append_nil]

end Program

namespace Scripted

def store : AnyStore State where
  answer s c :=
    let (reply, script) := takeReply (Kind.ofCall c) s.script
    let answer := reply.value.answer c
    (answer, { s with
      script, acts := .call c :: s.acts, time := s.time + reply.sleep, inUnit := opens c s.inUnit answer })
  clock s := (s.clock, s)

theorem run_plays {α : Type} (p : Program α) (s : State) (log : List LogLine) :
    ∃ later, run none p { s with log } =
      (some (p.play store s).answer, { (p.play store s).state with log := later }) := by
  induction p generalizing s log with
  | done a => exact ⟨log, rfl⟩
  | log line rest ih => exact ih s (line :: log)
  | clock next ih => exact ih s.clock s log
  | call c next ih => exact ih (store.answer s c).1 (store.answer s c).2 log

theorem play_acts {α : Type} (p : Program α) (s : State) :
    (p.play store s).state.acts = ((p.play store s).trace.map fun x => Act.call x.call).reverse ++ s.acts := by
  induction p generalizing s with
  | done a => rfl
  | log line rest ih => exact ih s
  | clock next ih => exact ih s.clock s
  | call c next ih =>
      have later := ih (store.answer s c).1 (store.answer s c).2
      simp only [Program.play, List.map_cons, List.reverse_cons, List.append_assoc, List.singleton_append]
      exact later

end Scripted
end DoubleEntry
