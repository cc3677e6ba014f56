import Mathlib.Data.List.TakeWhile

namespace Frames

variable {α : Type}

def frames (stop : α) (ms : List (List α)) : List α := ms.flatMap (· ++ [stop])

theorem frames_nil (stop : α) : frames stop [] = [] := rfl

theorem frames_cons (stop : α) (m : List α) (ms : List (List α)) :
    frames stop (m :: ms) = m ++ stop :: frames stop ms := by
  simp [frames]

theorem frames_append (stop : α) (ms ns : List (List α)) :
    frames stop (ms ++ ns) = frames stop ms ++ frames stop ns := by
  simp [frames]

theorem frames_singleton (stop : α) (m : List α) : frames stop [m] = m ++ [stop] := by
  simp [frames]

variable [DecidableEq α]

def first (stop : α) (s : List α) : Nat := (s.takeWhile (· ≠ stop)).length + 1

theorem takeWhile_stop {stop : α} {m : List α} (h : stop ∉ m) (rest : List α) :
    (m ++ stop :: rest).takeWhile (· ≠ stop) = m := by
  have hp : ∀ a ∈ m, decide (a ≠ stop) = true := fun a ha => decide_eq_true fun he => h (he ▸ ha)
  rw [List.takeWhile_append_of_pos hp]
  simp

theorem first_frames {stop : α} {m : List α} (h : stop ∉ m) (ms : List (List α)) :
    first stop (frames stop (m :: ms)) = m.length + 1 := by
  rw [first, frames_cons, takeWhile_stop h]

theorem take_first {stop : α} {m : List α} (h : stop ∉ m) (ms : List (List α)) :
    (frames stop (m :: ms)).take (first stop (frames stop (m :: ms))) = m ++ [stop] := by
  rw [first_frames h, frames_cons, List.take_append, List.take_of_length_le (by omega)]
  simp

theorem drop_first {stop : α} {m : List α} (h : stop ∉ m) (ms : List (List α)) :
    (frames stop (m :: ms)).drop (first stop (frames stop (m :: ms))) = frames stop ms := by
  rw [first_frames h, frames_cons, List.drop_append, List.drop_of_length_le (by omega)]
  simp

end Frames
