/-
  What `SendIMMessage` does to the messages and to the counters: it stores the message AND counts it,
  or it does neither.  The statements on the contacts before it may have any outcome.
-/
import Zattd.Correct.Replies

set_option linter.unusedVariables false

namespace Zattd

open Prog

/-- The command may change the stored messages or the counters. -/
def Cmd.isMessageOrCounter : Cmd → Bool
  | .message _ | .counter _ => true
  | _ => false

/-- The stored messages and the counters are as they were. -/
structure World.Quiet (w w' : World) : Prop where
  messages : w'.db.imMessage = w.db.imMessage
  cache : w'.cache = w.cache

theorem World.Quiet.refl (w : World) : w.Quiet w := ⟨rfl, rfl⟩

theorem World.Quiet.trans {w₁ w₂ w₃ : World} (h : w₁.Quiet w₂) (h' : w₂.Quiet w₃) : w₁.Quiet w₃ :=
  ⟨h'.messages.trans h.messages, h'.cache.trans h.cache⟩

/-- One command of another kind leaves both alone, whatever its outcome. -/
theorem Step.quiet {w w' : World} {c : Cmd} {a : c.Answer} (hc : c.isMessageOrCounter = false)
    (h : Step w c a w') : w.Quiet w' := by
  rcases h with hok | hfail
  · cases c with
    | nowMSTime => obtain rfl := hok; exact .refl _
    | user s => obtain ⟨-, rfl⟩ := hok; exact .refl _
    | department s => obtain ⟨-, rfl⟩ := hok; exact .refl _
    | contact s => obtain ⟨t, -, rfl⟩ := hok; exact ⟨rfl, rfl⟩
    | message s => cases hc
    | group s => obtain ⟨t, -, rfl⟩ := hok; exact ⟨rfl, rfl⟩
    | file s => obtain ⟨t, -, rfl⟩ := hok; exact ⟨rfl, rfl⟩
    | counter op => cases hc
    | sendSessionData sessionId message => obtain rfl := hok; exact .refl _
  · cases c with
    | user s | department s | contact s | message s | group s | file s =>
      obtain ⟨-, rfl⟩ := hfail
      exact .refl _
    | nowMSTime | counter op | sendSessionData sessionId message => exact hfail.elim

/-- A program of such commands leaves both alone. -/
theorem Runs.quiet {α : Type} {p : Server α} {w w' : World} {tr : List Event} {a : α}
    (hp : Issues Cmd.isMessageOrCounter p 0) (h : Runs Step w p tr a w') : w.Quiet w' := by
  have hstep : ∀ (s : World) (c : Cmd) (ans : c.Answer) (s' : World),
      c.isMessageOrCounter = false → Step s c ans s' → s.Quiet s' := fun _ _ _ _ hc h => h.quiet hc
  exact h.frame World.Quiet .refl .trans hstep hp

namespace ZAresMessageManagerImpl

open ZAresRelationshipManagerImpl

/-- The counters after a message from `f` to `t`. -/
def countMessage (f t : UInt32) (c : CacheManager) : CacheManager :=
  ZAresCounterManagerImpl.increaseUserUnreadMsgCount f t
    (ZAresCounterManagerImpl.incrUserMsgCount f t c)

theorem incrCounterForNewMessage_runs {f t n : UInt32} {w w' : World} {tr : List Event}
    (h : Runs Step w (incrCounterForNewMessage f t n) tr () w') :
    w' = w.setCache (countMessage f t w.cache) := by
  simp only [incrCounterForNewMessage, runs_bind, runs_issue] at h
  obtain ⟨_, _, w₁, _, ⟨hincr, _⟩, ⟨hincrease, _⟩, _⟩ := h
  have hw₁ : w₁ = w.setCache (ZAresCounterManagerImpl.incrUserMsgCount f t w.cache) :=
    (hincr.resolve_right id).2
  subst hw₁
  exact (hincrease.resolve_right id).2

/-- Before it inserts, `SendIMMessage` only looks after the contacts. -/
theorem sendIMMessage_quiet {f t : UInt32} {w w₁ w₂ w₃ : World} {tr₁ tr₂ tr₃ : List Event} {b : Bool}
    {found relateId : UInt32} (hcheck : Runs Step w (checkAndUpdateRelation f t) tr₁ b w₁)
    (hfound : Runs Step w₁ (getRelateId f t) tr₂ found w₂)
    (hadd : Runs Step w₂ (if found = kInvalidID then addFriendship f t else pure found) tr₃ relateId w₃) :
    w.Quiet w₃ := by
  have h₁ := Runs.quiet (checkAndUpdateRelation_issues (fun _ => rfl) f t) hcheck
  have h₂ := Runs.quiet (getRelateId_issues (fun _ => rfl) f t) hfound
  have h₃ := Runs.quiet
    (.ite (fun _ => addFriendship_issues (fun _ => rfl) rfl f t) fun _ => .pure _) hadd
  exact (h₁.trans h₂).trans h₃

/-- The row holds the message, with the ids of its sender and its recipient. -/
structure Holds (row : MessageRow) (f t : UInt32) (content : Bytes) : Prop where
  fromUserId : row.fromUserId = f.toNat
  toUserId : row.toUserId = t.toNat
  content : row.content = content

/-- **All or nothing.**  If it returns `true`, one row has been added that holds the message, and the
    message has been counted; if it returns `false`, nothing has been added or counted. -/
theorem sendIMMessage_runs {f t k time : UInt32} {content : Bytes} {w w' : World} {tr : List Event}
    {isSucess : Bool} (h : Runs Step w (sendIMMessage f t k content time) tr isSucess w') :
    (isSucess = false ∧ w.Quiet w') ∨
      (isSucess = true ∧ f ≠ 0 ∧ t ≠ 0 ∧ (∃ row, Holds row f t content ∧
        w'.db.imMessage = w.db.imMessage ++ [row]) ∧ w'.cache = countMessage f t w.cache) := by
  by_cases hguard : f = 0 ∨ t = 0 ∨ content = []
  · simp only [sendIMMessage, if_pos hguard, runs_pure] at h
    obtain ⟨-, rfl, rfl⟩ := h
    exact Or.inl ⟨rfl, .refl _⟩
  simp only [sendIMMessage, if_neg hguard, runs_bind, runs_issue] at h
  obtain ⟨_, _, w₁, _, hcheck, ⟨_, found, w₂, _, hfound, ⟨_, relateId, w₃, _, hadd,
    ⟨_, ctime, w₄, _, ⟨hclock, _⟩, ⟨_, n, w₅, tr₅, ⟨hinsert, _⟩, hrest, _⟩, _⟩, _⟩, _⟩, _⟩ := h
  have hquiet : w.Quiet w₄ := (sendIMMessage_quiet hcheck hfound hadd).trans (Step.quiet rfl hclock)
  rcases hinsert with ⟨t', ⟨keys, hkeys, rfl⟩, rfl⟩ | ⟨hfail, rfl⟩
  · -- the statement has inserted its row
    simp only [Int.one_pos, gt_iff_lt, if_true, runs_bind, runs_pure] at hrest
    obtain ⟨_, _, w₆, _, hcount, ⟨_, rfl, rfl⟩, _⟩ := hrest
    obtain rfl := incrCounterForNewMessage_runs hcount
    obtain ⟨hlen, -, -, rfl⟩ := hkeys
    obtain ⟨key, rfl⟩ := List.length_eq_one_iff.mp hlen
    simp only [not_or] at hguard
    let row := (messageValues relateId f t k content (UInt64.toUInt32 (ctime / 1000))).row key
    refine Or.inr ⟨rfl, hguard.1, hguard.2.1, ⟨row, ⟨rfl, rfl, rfl⟩, ?_⟩, ?_⟩
    · show w₄.db.imMessage ++ [row] = w.db.imMessage ++ [row]
      rw [hquiet.messages]
    · show countMessage f t w₄.cache = _
      rw [hquiet.cache]
  · have hle : ¬(n > (0 : Int)) := not_lt.mpr hfail
    simp only [if_neg hle, runs_pure] at hrest
    obtain ⟨-, rfl, rfl⟩ := hrest
    exact Or.inl ⟨rfl, hquiet⟩

end ZAresMessageManagerImpl

end Zattd
