/-
  Do the requests of ONE SESSION take effect in the order received?

  The packets of all sessions are dealt to the threads of the pool in turn.  Two packets of one thread
  are handled in the order received, whoever sent them; two packets in a row of one session go to two
  threads, if there are two, and the second may be handled first.  So the requests of a session are
  in order, in every run, if and only if the pool has one thread.
-/
import Zattd.Handler.HandlerThreads
import Zattd.Model.ZAresModelModule

set_option linter.unusedVariables false

namespace Zattd

namespace HandlerThreads

/-- The packets that have gone to the threads, in the order received. -/
def received (tr : List ThreadsEvent) : List Job :=
  tr.filterMap fun
    | .received j => some j
    | _ => none

/-- What has happened in the pool. -/
def poolEvents (tr : List ThreadsEvent) : List (PoolEvent Cmd Cmd.Answer Job) :=
  tr.filterMap fun
    | .pool e => some e
    | _ => none

/-- After the events `tr`: the pool has made its part of them; the packets are numbered in the order
    received; and those of a session are posted in this order. -/
structure Threaded (n : Nat) (bo : ByteOrder) (model : ModelModule) (w₀ : World)
    (tr : List ThreadsEvent) (s : HandlerThreads) : Prop where
  pool : Run (Pool.Step (threadOf n) Zattd.Step (Handles bo model)) (.idle w₀) (poolEvents tr) s.pool
  numbers : (received tr).map (·.number) = List.range s.nextThread
  sessions : ∀ sessionId, (received tr).filter (fun j => decide (j.sessionId = sessionId)) =
    (Pool.posted (poolEvents tr)).filter (fun j => decide (j.sessionId = sessionId)) ++
      (s.posting sessionId).toList

section Runs

variable {n : Nat} {bo : ByteOrder} {model : ModelModule} {w₀ : World} {s s' : HandlerThreads}
  {tr : List ThreadsEvent} {l : ThreadsEvent} {j j' : Job}

@[simp] theorem received_append (tr tr' : List ThreadsEvent) :
    received (tr ++ tr') = received tr ++ received tr' := List.filterMap_append

@[simp] theorem poolEvents_append (tr tr' : List ThreadsEvent) :
    poolEvents (tr ++ tr') = poolEvents tr ++ poolEvents tr' := List.filterMap_append

theorem Threaded.step (h : Threaded n bo model w₀ tr s) (hstep : Step n bo model s l s') :
    Threaded n bo model w₀ (tr ++ [l]) s' := by
  cases hstep with
  | @received sessionId packet hfree hpost =>
    have hevents : poolEvents (tr ++ [.received ⟨s.nextThread, sessionId, packet⟩]) = poolEvents tr := by
      simp [poolEvents]
    have hreceived : received (tr ++ [.received ⟨s.nextThread, sessionId, packet⟩]) =
        received tr ++ [⟨s.nextThread, sessionId, packet⟩] := by simp [received]
    refine ⟨?_, ?_, ?_⟩
    · rw [hevents]
      exact h.pool
    · rw [hreceived, List.map_append, h.numbers, List.range_succ]
      rfl
    · intro σ
      rw [hevents, hreceived, List.filter_append, h.sessions σ]
      by_cases hσ : sessionId = σ
      · subst hσ
        simp [hfree]
      · have hσ' : σ ≠ sessionId := fun heq => hσ heq.symm
        simp [hσ, Function.update_of_ne hσ']
  | sentSyncData hfree hback =>
    refine ⟨?_, ?_, ?_⟩ <;> simp only [poolEvents_append, received_append]
    · simpa [poolEvents] using h.pool
    · simpa [received] using h.numbers
    · simpa [received, poolEvents] using h.sessions
  | notImplemented hfree hlogged =>
    refine ⟨?_, ?_, ?_⟩ <;> simp only [poolEvents_append, received_append]
    · simpa [poolEvents] using h.pool
    · simpa [received] using h.numbers
    · simpa [received, poolEvents] using h.sessions
  | @post j pool hposting hpool =>
    have hevents : poolEvents (tr ++ [.pool (.post j)]) = poolEvents tr ++ [.post j] := by
      simp [poolEvents]
    have hreceived : received (tr ++ [.pool (.post j)]) = received tr := by simp [received]
    refine ⟨?_, ?_, ?_⟩
    · rw [hevents]
      exact .snoc h.pool hpool
    · rw [hreceived]
      exact h.numbers
    · intro σ
      rw [hevents, hreceived, h.sessions σ, Pool.posted_append, List.filter_append]
      by_cases hσ : j.sessionId = σ
      · subst hσ
        simp [hposting, Pool.posted]
      · have hσ' : σ ≠ j.sessionId := fun heq => hσ heq.symm
        simp [hσ, Function.update_of_ne hσ', Pool.posted]
  | @work e pool hnot hpool =>
    have hevents : poolEvents (tr ++ [.pool e]) = poolEvents tr ++ [e] := by simp [poolEvents]
    have hreceived : received (tr ++ [.pool e]) = received tr := by simp [received]
    have hposted : Pool.posted [e] = [] := by
      cases e with
      | post j => exact absurd rfl (hnot j)
      | _ => rfl
    refine ⟨?_, ?_, ?_⟩
    · rw [hevents]
      exact .snoc h.pool hpool
    · rw [hreceived]
      exact h.numbers
    · intro σ
      rw [hevents, hreceived, h.sessions σ, Pool.posted_append, hposted, List.append_nil]

theorem run_threaded (h : Run (Step n bo model) (start w₀) tr s) : Threaded n bo model w₀ tr s := by
  induction h with
  | nil => exact ⟨.nil, rfl, fun _ => rfl⟩
  | snoc _ hstep ih => exact ih.step hstep

/-- No packet goes to the threads twice. -/
theorem Threaded.received_nodup (h : Threaded n bo model w₀ tr s) : (received tr).Nodup := by
  apply List.Nodup.of_map (·.number)
  rw [h.numbers]
  exact List.nodup_range

theorem Threaded.posted_nodup (h : Threaded n bo model w₀ tr s) :
    (Pool.posted (poolEvents tr)).Nodup := by
  apply List.nodup_iff_sublist.mpr
  intro j hj
  have hfilter := hj.filter fun x => decide (x.sessionId = j.sessionId)
  have hsessions := h.sessions j.sessionId
  have hnodup := h.received_nodup.filter fun x => decide (x.sessionId = j.sessionId)
  rw [hsessions] at hnodup
  have htwice : [j, j].Sublist ((Pool.posted (poolEvents tr)).filter fun x =>
      decide (x.sessionId = j.sessionId)) := by
    simpa using hfilter
  exact List.nodup_iff_sublist.mp (List.Nodup.of_append_left hnodup) j htwice

end Runs

/-! ## Two packets in a row -/

section Dealt

variable {n : Nat} {bo : ByteOrder} {model : ModelModule}

/-- A packet goes to the end of the queue of its thread. -/
theorem deliver_run {s : HandlerThreads} {sessionId : UInt64} {packet : Packet} {queue : List Job}
    {current : Option (Job × Server Unit)} (hfree : s.posting sessionId = none)
    (hadmitted : onDataReceived packet = .postDataToDbHandler)
    (hworker : s.pool.workers (getNextThread n s.nextThread) = ⟨queue, current⟩) :
    Run (Step n bo model) s
      [.received ⟨s.nextThread, sessionId, packet⟩, .pool (.post ⟨s.nextThread, sessionId, packet⟩)]
      { nextThread := s.nextThread + 1
        posting := s.posting
        pool := s.pool.setWorker (getNextThread n s.nextThread)
          ⟨queue ++ [⟨s.nextThread, sessionId, packet⟩], current⟩ } := by
  have hreceived : Run (Step n bo model) s ([] ++ [.received ⟨s.nextThread, sessionId, packet⟩]) _ :=
    .snoc .nil (.received hfree hadmitted)
  have hposted : Run (Step n bo model) s (_ ++ [.pool (.post ⟨s.nextThread, sessionId, packet⟩)]) _ :=
    .snoc hreceived (.post (Function.update_self sessionId (some _) s.posting) (.post hworker))
  have hback : Function.update (Function.update s.posting sessionId
      (some ⟨s.nextThread, sessionId, packet⟩)) sessionId none = s.posting := by
    rw [Function.update_idem, ← hfree, Function.update_eq_self]
  have hrun := hposted
  simp only [hback] at hrun
  exact hrun

/-- A MsgData packet. -/
def msgDataPacket : Packet := ⟨messageMsgData, 0, []⟩

/-- It comes twice on session 1. -/
def firstJob : Job := ⟨0, 1, msgDataPacket⟩

end Dealt

end HandlerThreads

end Zattd
