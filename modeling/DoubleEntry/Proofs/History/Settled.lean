import DoubleEntry.Proofs.History.Covered

/-!
What transfers of a history come to that succeed. However they are interleaved and whatever else fails, the balances are those
that the transfers leave, and these do not depend on their order. As much as is taken from an account is brought to it
where transfers of one amount have each account as often for their source as for their destination.
-/

set_option autoImplicit false

namespace DoubleEntry

open Time (Stamp)

section Shares

variable (transfers : List Transfer) (amount : Decimal) (equal : ∀ t ∈ transfers, t.amount = amount)

include equal

theorem share_count (side : Transfer → AccountId) (id : AccountId) :
    share side transfers id = (transfers.map side).count id * (Amount.round amount).value := by
  induction transfers with
  | nil => simp
  | cons t rest ih =>
      have others := ih fun other member => equal other (List.mem_cons_of_mem t member)
      have own : t.value = (Amount.round amount).value := by rw [Transfer.value, equal t List.mem_cons_self]
      rw [share_cons, others, List.map_cons, List.count_cons, own]
      by_cases here : side t = id
      · simp only [here, if_true, beq_self_eq_true, Nat.cast_add, Nat.cast_one]
        ring
      · simp only [here, if_false, beq_eq_false_iff_ne.mpr here, Bool.false_eq_true, add_zero, zero_add]

theorem round_returns (p : Position) (others : List Transfer)
    (same : (transfers.map Transfer.source).Perm (transfers.map Transfer.destination)) :
    p.settled (transfers ++ others) = p.settled others := by
  have even : ∀ id, outgoing transfers id = incoming transfers id := fun id => by
    rw [outgoing, incoming, share_count transfers amount equal, share_count transfers amount equal, same.count_eq id]
  funext id
  simp only [Position.settled, share_append, even]
  congr 1
  funext q
  ring

end Shares

theorem Book.post_balance (b : Book) (balance : Decimal) (e : NewEntry) (posting : b.Posting balance e) (id : AccountId) :
    (b.post balance e).position.balance id =
      (b.position.balance id).map fun q => q + if e.account = id then e.amount.value else 0 := by
  obtain ⟨a, found, change⟩ := posting.change
  have updated := congrArg (Position.balance · id) (b.update_position e.account a balance e.created found)
  have put : (b.post balance e).position.balance id = (b.position.put e.account balance.value).balance id := updated
  rw [put, Position.put_balance]
  by_cases own : id = e.account
  · subst own
    have held : b.position.balance e.account = some a.balance.value := congrArg (Option.map _) found
    rw [if_pos rfl, held, change, if_pos rfl]
    rfl
  · rw [if_neg own, if_neg (Ne.symm own)]
    simp

theorem Ledger.transfer_settles (now : Stamp) (b later : Book) (balanced : b.Balanced) (t : Transfer)
    (writes : Writes now b later (.createTransfer t)) : Settled b later [t] := by
  refine ⟨funext fun id => ?_, (transfer_moves now b later balanced t writes).2⟩
  obtain ⟨reduced, raised, debit, credit, rfl⟩ := transfer_posts now b later balanced t writes
  rw [Book.post_balance _ raised _ credit id, Book.post_balance b reduced _ debit id, Position.settled, Option.map_map]
  congr 1
  funext q
  simp only [Function.comp_apply, outgoing, incoming, share_cons, share_nil, add_zero, debitEntry, creditEntry,
    Decimal.value_neg, Transfer.value]
  by_cases here : t.source = id
  · rw [if_pos here, if_pos here, sub_eq_add_neg]
    rfl
  · rw [if_neg here, if_neg here, sub_zero, add_zero]
    rfl

namespace History

variable (start : Store) (balanced : start.committed.Balanced) (before events : List Event)

include balanced

-- By the events, from the last one: each of them changes nothing or is the turn in which something succeeds.
theorem events_settle : ∃ news, successes start (before ++ events) = successes start before ++ news ∧
    ∀ transfers : List Transfer,
      news.map (fun r => r.demand.operation?) = transfers.map (fun t => some (.createTransfer t)) →
      Settled (books start before) (books start (before ++ events)) transfers := by
  induction events using List.reverseRecOn with
  | nil =>
      rw [List.append_nil]
      refine ⟨[], (List.append_nil _).symm, fun transfers asked => ?_⟩
      rw [List.map_eq_nil_iff.mp asked.symm]
      exact settled_none _
  | append_singleton events e ih =>
      obtain ⟨news, grown, settles⟩ := ih
      rw [← List.append_assoc]
      cases run_changed start (before ++ events) e with
      | kept same records =>
          refine ⟨news, records.trans grown, fun transfers asked => ?_⟩
          rw [same]
          exact settles transfers asked
      | wrote r now o asks records writes =>
          refine ⟨news ++ [r], by rw [records, grown, List.append_assoc], fun transfers asked => ?_⟩
          rw [List.map_append] at asked
          obtain ⟨first, last, rfl, earlier, own⟩ := List.map_eq_append_iff.mp asked.symm
          rw [List.map_singleton, List.map_eq_singleton_iff] at own
          obtain ⟨t, rfl, transfer⟩ := own
          rw [asks] at transfer
          cases transfer
          have still := run_balanced start (before ++ events) balanced
          exact settled_trans _ _ _ first [t] (settles first earlier.symm) (Ledger.transfer_settles now _ _ still t writes)

/-- Where transfers are what succeeds between two moments of a history, in whatever order, the balances are settled. -/
theorem successes_settle (news : List Record) (grown : successes start (before ++ events) = successes start before ++ news)
    (transfers : List Transfer)
    (asked : (news.map fun r => r.demand.operation?).Perm (transfers.map fun t => some (.createTransfer t))) :
    Settled (books start before) (books start (before ++ events)) transfers := by
  obtain ⟨more, same, settles⟩ := events_settle start balanced before events
  obtain rfl := List.append_cancel_left (same.symm.trans grown)
  obtain ⟨order, own, all⟩ :
      Relation.Comp (· = List.map (fun t : Transfer => some (Ledger.Operation.createTransfer t)) ·) List.Perm
        (more.map fun r => r.demand.operation?) transfers := by
    rw [List.eq_map_comp_perm]
    exact asked
  exact settled_any_order _ _ order transfers all (settles order own)

end History
end DoubleEntry
