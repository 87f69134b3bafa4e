/-
What is logged, and on which channel.

How much is logged depends on two switches: errors always are, and being quiet wins over being verbose
(`mem_atLeast_threshold_iff`). A channel stands at or below the one for the whole program, so that what it is told is logged
like all else, unless its name begins as that of the whole program does and goes on otherwise (`isBelow_channel_iff`).
-/
import ChangeLint.Log
import Mathlib.Tactic

namespace ChangeLint.Log

variable {verbose quiet : Bool} {log : List Entry} {e : Entry} {name : Option String}

/-! ## Levels -/

/-- **Errors are always logged**, debugging only where it is asked for, and nothing but errors when quiet -/
theorem mem_atLeast_threshold_iff : e ∈ Entry.atLeast (threshold verbose quiet) log ↔
    e ∈ log ∧ (e.level = .error ∨ quiet = false ∧ (e.level = .debug → verbose = true)) := by
  rw [Entry.atLeast, List.mem_filter, Entry.isKept]
  obtain ⟨level, text⟩ := e
  cases quiet <;> cases verbose <;> cases level <;> simp [threshold, Level.rank]

/-! ## Channels -/

/-- true of the channel of the whole program and of those below it -/
def IsBelow (name : String) : Prop := name = root ∨ ∃ part, name = root ++ "." ++ part

/-- a name that begins as that of the whole program does is a channel already -/
theorem channel_of_own {n : String} (h : root.toList <+: n.toList) : channel (some n) = n := by
  rw [channel, if_pos (List.isPrefixOf_iff_prefix.2 h)]

theorem channel_of_foreign {n : String} (h : ¬ root.toList <+: n.toList) : channel (some n) = root ++ "." ++ n := by
  rw [channel, if_neg fun hp => h (List.isPrefixOf_iff_prefix.1 hp)]

theorem prefix_channel (name : Option String) : root.toList <+: (channel name).toList := by
  cases name with
  | none => exact List.prefix_rfl
  | some n =>
    by_cases h : root.toList <+: n.toList
    · rwa [channel_of_own h]
    · rw [channel_of_foreign h, String.append_assoc, String.toList_append]
      exact List.prefix_append _ _

/-- **The channel of a channel is the channel itself** -/
theorem channel_channel (name : Option String) : channel (some (channel name)) = channel name :=
  channel_of_own (prefix_channel name)

/-- **A channel is below that of the whole program**, unless its name only begins like it -/
theorem isBelow_channel_iff : IsBelow (channel name) ↔ ∀ n, name = some n → root.toList <+: n.toList → IsBelow n := by
  cases name with
  | none => exact ⟨fun _ _ h => (nomatch h), fun _ => .inl rfl⟩
  | some n =>
    by_cases h : root.toList <+: n.toList
    · rw [channel_of_own h]
      exact ⟨fun hn m hm _ => Option.some.inj hm ▸ hn, fun hall => hall n rfl h⟩
    · rw [channel_of_foreign h]
      exact ⟨fun _ m hm hp => absurd (Option.some.inj hm ▸ hp) h, fun _ => .inr ⟨n, rfl⟩⟩

end ChangeLint.Log
