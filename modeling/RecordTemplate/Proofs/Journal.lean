/-
  RecordTemplate.Proofs.Journal

  Set-ups of the log, one after another.  The handlers are those of the last set-up alone: what
  others have installed, in its order, and one handler of the engine.  The level is that of the last
  set-up that has set one (`rank_afterAll`), and a set-up without debug mode sets none, so a level
  of an earlier set-up stays behind it (`last_setUp_decides`).
-/

import Mathlib.Tactic.Common
import RecordTemplate.Journal

namespace RecordTemplate

/-! ## Set-ups -/

/-- A set-up: what it asks for, and the disk that it finds. -/
structure SetUp where
  disk : Journal.Disk
  settings : LogSettings

namespace SetUp

/-- The handler that is asked for. -/
def handler (c : SetUp) : LogHandler :=
  if c.settings.debug then .file c.settings.folder else .silent

/-- Whether the handler that is asked for can be installed: the log file, if there is to be one,
    can be opened. -/
def opens (c : SetUp) : Bool := !c.settings.debug || (c.disk c.settings.folder).isOk

/-- The rank that is set: that of the level that is asked for, in debug mode only, and if the
    set-up comes so far. -/
def rank? (c : SetUp) : Option Nat :=
  if c.settings.debug && c.opens then (setupRank c.settings.level).toOption else none

end SetUp

namespace Journal

variable {j : Journal}

/-- A logger on which no level is set and no handler but those of others. -/
def unset (others : List String) (files : List (String × List Char)) : Journal where
  handlers := others.map .foreign
  files := files

/-- The log after a set-up, whether or not it came to its end. -/
def after (j : Journal) (c : SetUp) : Journal := (j.setUp c.disk c.settings).2

def afterAll (j : Journal) (calls : List SetUp) : Journal := calls.foldl after j

theorem afterAll_concat (j : Journal) (calls : List SetUp) (last : SetUp) :
    j.afterAll (calls ++ [last]) = (j.afterAll calls).after last := by
  unfold afterAll
  rw [List.foldl_append, List.foldl_cons, List.foldl_nil]

/-! ## One set-up -/

/-- All that a set-up does to the handlers and to the level. -/
theorem after_cases (j : Journal) (c : SetUp) :
    (j.after c).handlers =
        j.handlers.filter LogHandler.isForeign ++ (if c.opens then [c.handler] else []) ∧
      (j.after c).rank = c.rank?.getD j.rank := by
  unfold after setUp SetUp.rank? SetUp.opens SetUp.handler
  cases hdebug : c.settings.debug with
  | false => exact ⟨rfl, rfl⟩
  | true =>
    cases hdisk : c.disk c.settings.folder with
    -- the handlers of earlier set-ups are gone before the file is opened
    | error fault => exact ⟨(List.append_nil _).symm, rfl⟩
    | ok opened =>
      cases hrank : setupRank c.settings.level with
      -- a level that is refused comes after the handler is installed
      | error fault => exact ⟨rfl, by simp [Except.toOption, Except.isOk, Except.toBool]⟩
      | ok rank => exact ⟨rfl, by simp [Except.toOption, Except.isOk, Except.toBool]⟩

theorem isForeign_handler (c : SetUp) : c.handler.isForeign = false := by
  unfold SetUp.handler
  split <;> rfl

/-- A set-up leaves the handlers of others and their order as they are. -/
theorem foreign_after (j : Journal) (c : SetUp) :
    (j.after c).handlers.filter LogHandler.isForeign = j.handlers.filter LogHandler.isForeign := by
  have hown : (if c.opens then [c.handler] else []).filter LogHandler.isForeign = [] := by
    split
    · rw [List.filter_cons, if_neg (by simp [isForeign_handler]), List.filter_nil]
    · rfl
  rw [(after_cases j c).1, List.filter_append, List.filter_filter, hown, List.append_nil]
  simp only [Bool.and_self]

/-! ## Runs of set-ups -/

theorem foreign_afterAll (j : Journal) (calls : List SetUp) :
    (j.afterAll calls).handlers.filter LogHandler.isForeign =
      j.handlers.filter LogHandler.isForeign := by
  induction calls generalizing j with
  | nil => rfl
  | cons c calls ih => exact (ih (j.after c)).trans (foreign_after j c)

/-- The level is the one that was set last. -/
theorem rank_afterAll (j : Journal) (calls : List SetUp) :
    (j.afterAll calls).rank = (calls.filterMap SetUp.rank?).getLast?.getD j.rank := by
  induction calls generalizing j with
  | nil => rfl
  | cons c calls ih =>
    have hstep : (j.afterAll (c :: calls)).rank = ((j.after c).afterAll calls).rank := rfl
    rw [hstep, ih, (after_cases j c).2]
    cases hrank : c.rank? with
    | none => rw [List.filterMap_cons_none hrank, Option.getD_none]
    | some rank =>
      rw [List.filterMap_cons_some hrank, List.getLast?_cons, Option.getD_some, Option.getD_some]

theorem foreign_unset (others : List String) (files : List (String × List Char)) :
    (unset others files).handlers.filter LogHandler.isForeign = others.map .foreign := by
  refine List.filter_eq_self.2 fun h hmem => ?_
  obtain ⟨name, -, rfl⟩ := List.mem_map.1 hmem
  rfl

/-- After any run of set-ups the handlers are those of the last one alone: those of others as they
    were, and the one that it asks for, which is missing only if its log file cannot be opened.  The
    level is that of the last one alone exactly if it has set one, or if the level that was set last
    before it is that of no level. -/
theorem last_setUp_decides (others : List String) (files : List (String × List Char))
    (calls : List SetUp) (last : SetUp) :
    ((unset others files).afterAll (calls ++ [last])).handlers =
        ((unset others files).after last).handlers ∧
      ((unset others files).after last).handlers =
        others.map .foreign ++ (if last.opens then [last.handler] else []) ∧
      (((unset others files).afterAll (calls ++ [last])).rank =
          ((unset others files).after last).rank ↔
        last.rank?.isSome ∨ (calls.filterMap SetUp.rank?).getLast?.getD 0 = 0) := by
  have hrun : (unset others files).afterAll (calls ++ [last]) =
      ((unset others files).afterAll calls).after last := afterAll_concat _ calls last
  have halone := after_cases (unset others files) last
  have hbehind := after_cases ((unset others files).afterAll calls) last
  rw [foreign_unset] at halone
  rw [foreign_afterAll, foreign_unset, rank_afterAll] at hbehind
  have hnone : (unset others files).rank = 0 := rfl
  rw [hnone] at halone hbehind
  rw [hrun, hbehind.1, halone.1, hbehind.2, halone.2]
  refine ⟨rfl, rfl, ?_⟩
  cases last.rank? with
  | none => simp
  | some rank => simp

/-- A set-up without debug mode keeps the level of a set-up in debug mode before it. -/
theorem not_forall_rank_of_last : ¬ ∀ others files calls last,
    ((unset others files).afterAll (calls ++ [last])).rank =
      ((unset others files).after last).rank := by
  intro h
  have hlevel := h [] [] [⟨fun _ => .ok (), ⟨true, "DEBUG", "logs"⟩⟩]
    ⟨fun _ => .ok (), ⟨false, "DEBUG", "logs"⟩⟩
  have hdebug : setupRank "DEBUG" = .ok 10 := rfl
  simp [afterAll, after, setUp, unset, hdebug] at hlevel

end Journal
end RecordTemplate
