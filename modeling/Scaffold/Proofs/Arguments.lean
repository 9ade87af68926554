import Scaffold.Artifact
import Scaffold.CommandLine.Options

/-!
# Options that exclude each other

For each side there is an option that asks for the files of that side only. While arguments are
read, such an option is refused when the other one has been seen (`Reading.SidesApart`), so no
options ask for both (`Options.asksOnly_other_of_parse`).
-/

namespace Scaffold

def Side.other : Side → Side
  | .frontend => .backend
  | .backend => .frontend

namespace CommandLine

/-- The option that asks for the files of one side only. -/
def Flag.only : Side → Flag
  | .frontend => frontendOnly
  | .backend => backendOnly

/-- Whether options ask for the files of one side only. -/
def Options.asksOnly (o : Options) : Side → Bool
  | .frontend => o.frontendOnly
  | .backend => o.backendOnly

/-- The options that ask for a side have been seen, and there are not both of them. -/
structure Reading.SidesApart (r : Reading) : Prop where
  seen : ∀ side, r.options.asksOnly side = true → Flag.only side ∈ r.seen
  apart : ∀ side, r.options.asksOnly side = true → r.options.asksOnly side.other = false

/-- Of two steps that succeed, the first one does. -/
theorem exists_of_bind {ε α β : Type} {x : Except ε α} {f : α → Except ε β} {b : β}
    (h : x.bind f = .ok b) : ∃ a, x = .ok a ∧ f a = .ok b := by
  cases x with
  | error e => cases h
  | ok a => exact ⟨a, rfl, h⟩

theorem Flag.only_injective {side side' : Side} (h : only side = only side') : side = side' := by
  cases side <;> cases side' <;> first | rfl | cases h

@[simp]
theorem Flag.excluded?_only (side : Side) : (only side).excluded? = some (only side.other) := by
  cases side <;> rfl

namespace Options

variable {o o' : Options} {side : Side} {flag : Flag}

@[simp] theorem asksOnly_switchOn :
    (o.switchOn flag).asksOnly side = true ↔ o.asksOnly side = true ∨ flag = .only side := by
  cases side <;> cases flag <;> simp [switchOn, asksOnly, Flag.only]

/-- An option with a value does not ask for a side. -/
theorem asksOnly_setValue {value : String} (h : o.setValue flag value = .ok o') :
    o'.asksOnly side = o.asksOnly side := by
  unfold setValue at h
  split at h
  case h_8 =>
    split at h
    · cases h
      cases side <;> rfl
    · cases h
  all_goals
    cases h
    cases side <;> rfl

end Options

namespace Reading

variable {r r' : Reading} {flag : Flag}

theorem sidesApart_initial : ({} : Reading).SidesApart := by
  constructor
  all_goals
    intro side hside
    cases side <;> cases hside

namespace SidesApart

theorem mono (h : r.SidesApart)
    (hasks : ∀ side, r'.options.asksOnly side = r.options.asksOnly side)
    (hseen : r.seen ⊆ r'.seen) : r'.SidesApart := by
  refine ⟨fun side hside => hseen (h.seen side ?_), fun side hside => ?_⟩
  · rwa [← hasks]
  · rw [hasks] at hside ⊢
    exact h.apart side hside

theorem refuse (h : r.SidesApart) (argument : String) : (r.refuse argument).SidesApart :=
  h.mono (fun _ => rfl) (List.Subset.refl _)

theorem setValue (h : r.SidesApart) {value : String} (hr : r.setValue flag value = .ok r') :
    r'.SidesApart := by
  unfold Reading.setValue at hr
  split at hr
  next o hset =>
    cases hr
    exact h.mono (fun _ => Options.asksOnly_setValue hset) (List.subset_cons_self _ _)
  next => cases hr

theorem switchOn (h : r.SidesApart) (hr : r.switchOn flag = .ok r') : r'.SidesApart := by
  -- an option that is seen after the one that excludes it is refused
  obtain ⟨hfilter, rfl⟩ : flag.excluded?.filter r.seen.contains = none
      ∧ { r with options := r.options.switchOn flag, seen := flag :: r.seen } = r' := by
    unfold Reading.switchOn at hr
    split at hr
    · cases hr
    · cases hr
    · split at hr
      · cases hr
      next hfilter => exact ⟨hfilter, Except.ok.inj hr⟩
  have hother : ∀ side, flag = .only side → r.options.asksOnly side.other = false := by
    rintro side rfl
    rw [Bool.eq_false_iff]
    intro hasks
    have hseen := h.seen _ hasks
    simp [hseen] at hfilter
  refine ⟨fun side hside => ?_, fun side hside => ?_⟩
  · rcases Options.asksOnly_switchOn.mp hside with hbefore | rfl
    · exact List.mem_cons_of_mem _ (h.seen side hbefore)
    · exact List.mem_cons_self
  · rw [Bool.eq_false_iff]
    intro hboth
    rcases Options.asksOnly_switchOn.mp hside with hbefore | hflag <;>
      rcases Options.asksOnly_switchOn.mp hboth with hbefore' | hflag'
    · rw [h.apart side hbefore] at hbefore'
      cases hbefore'
    · have hnot := hother side.other hflag'
      have hside : side.other.other = side := by cases side <;> rfl
      rw [hside, hbefore] at hnot
      cases hnot
    · rw [hother side hflag] at hbefore'
      cases hbefore'
    · have heq := Flag.only_injective (hflag.symm.trans hflag')
      cases side <;> cases heq

theorem switchAllOn (h : r.SidesApart) {flags : List Flag} (hr : r.switchAllOn flags = .ok r') :
    r'.SidesApart := by
  induction flags generalizing r with
  | nil =>
    cases hr
    exact h
  | cons flag rest ih =>
    have hstep : r.switchAllOn (flag :: rest)
        = (r.switchOn flag).bind fun first => first.switchAllOn rest := rfl
    rw [hstep] at hr
    obtain ⟨first, hfirst, hrest⟩ := exists_of_bind hr
    exact ih (h.switchOn hfirst) hrest

theorem switchAllOn_setValue (h : r.SidesApart) {flags : List Flag} {value : String}
    (hr : (r.switchAllOn flags).bind (·.setValue flag value) = .ok r') : r'.SidesApart := by
  obtain ⟨first, hfirst, hvalue⟩ := exists_of_bind hr
  exact (h.switchAllOn hfirst).setValue hvalue

/-- Reading goes on without options for both sides. -/
theorem run (h : r.SidesApart) {words : List (String × Word)} (hr : r.run words = .ok r') :
    r'.SidesApart := by
  fun_induction Reading.run r words with
  | case1 =>
    cases hr
    exact h
  -- a value in the same argument, and one in the next
  | case4 _ _ _ _ _ _ _ _ _ _ _ hset ih => exact ih (h.switchAllOn_setValue hset) hr
  | case6 _ _ _ _ _ _ _ _ _ _ _ _ hset ih => exact ih (h.switchAllOn_setValue hset) hr
  | case9 _ _ _ _ _ _ _ _ _ _ _ hflags ih => exact ih (h.switchAllOn hflags) hr
  | case10 _ s _ _ _ ih => exact ih (h.refuse s) hr
  | _ => cases hr

end SidesApart

end Reading

/-- Arguments that ask for one side do not ask for the other. -/
theorem Options.asksOnly_other_of_parse {arguments : List String} {o : Options}
    (hparse : parse arguments = .ok o) {side : Side} (hside : o.asksOnly side = true) :
    o.asksOnly side.other = false := by
  unfold parse at hparse
  split at hparse
  next => cases hparse
  next words _ =>
    obtain ⟨r, hrun, hlast⟩ := exists_of_bind hparse
    -- the options are those of the last state
    have hoptions : r.options = o := by
      unfold Reading.options? at hlast
      split at hlast
      · cases hlast
      · split at hlast
        · exact Except.ok.inj hlast
        · cases hlast
    rw [← hoptions] at hside ⊢
    exact (Reading.sidesApart_initial.run hrun).apart side hside

end CommandLine

end Scaffold
