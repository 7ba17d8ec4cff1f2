import GroundStation.CommandLine
import GroundStation.Proofs.Command.Selection

/-!
# The option for a mission

The selector of the option is taken for a number if it can be read as one, and for a name else.
So the option with the name of a configured mission flies that mission unless the name is the
number of another place: a number with or without a plus sign, below `2 ^ 64`. Then it flies the
mission in that place, or none.

The option can be given joined to its name, and with the name in a word of its own unless that
would be an option itself. Where a command line with it is accepted, whatever else stands there,
its script has one command for a mission, and it is the one of this selector.

## Main results

* `CommandLineScan.word_cases`: what a word that is accepted does.
* `Arguments.mission_of_joined`, `Arguments.mission_of_apart`: the selector of a command line.
* `Arguments.mission_option_flies_iff`: what the option with the name of a mission flies.
* `Arguments.mission_option_flies_other`: a mission whose name is the number of another one.
-/

namespace GroundStation

/-- Is a command one for a mission? -/
def Command.isMission : Command → Bool
  | .mission .. => true
  | _ => false

namespace CommandLineScan

variable {s s' s'' : CommandLineScan} {a a' : Arguments} {option : ValuedOption}
  {value name w : String}

/-! ## Values that were given -/

/-- A selector that was given stays. -/
theorem set_mission (h : a.set option value = .ok a') (hgiven : a.mission = some name) :
    a'.mission = some name := by
  cases option with
  | mission => simp [Arguments.set, Arguments.has, hgiven] at h
  | config | takeoff | connectTimeout =>
      simp only [Arguments.set] at h
      repeat' split at h
      all_goals cases h
      exact hgiven

/-- The selector that was given. -/
theorem mission_of_set (h : a.set .mission value = .ok a') : a'.mission = some value := by
  simp only [Arguments.set] at h
  split at h
  · cases h
  · cases h
    rfl

/-- The selector of a command line as far as it was read: it was looked at, or waits to be. -/
def Bears (s : CommandLineScan) (name : String) : Prop :=
  s.read.mission = some name ∨ s.pending = some (.mission, some name)

/-- Looking at the last option leaves the selector. -/
theorem Bears.settle (h : s.Bears name) (hsettle : s.settle = .ok a) : a.mission = some name := by
  unfold CommandLineScan.settle at hsettle
  rcases h with hread | hpending
  · cases hpending : s.pending with
    | none =>
        rw [hpending] at hsettle
        cases hsettle
        exact hread
    | some last =>
        obtain ⟨option, value⟩ := last
        rw [hpending] at hsettle
        cases value with
        | none => cases hsettle
        | some value => exact set_mission hsettle hread
  · rw [hpending] at hsettle
    exact mission_of_set hsettle

/-- What was given so far is looked at, and a selector stays. -/
def Onward (s s' : CommandLineScan) : Prop :=
  ∃ a, s.settle = .ok a ∧ ∀ name, a.mission = some name → s'.read.mission = some name

theorem Onward.bears (h : s.Onward s') (hs : s.Bears name) : s'.Bears name := by
  obtain ⟨a, hsettle, hkept⟩ := h
  exact .inl (hkept name (hs.settle hsettle))

theorem Onward.trans (h : s.Onward s') (h' : s'.Onward s'') : s.Onward s'' := by
  obtain ⟨a, hsettle, hkept⟩ := h
  obtain ⟨a', hsettle', hkept'⟩ := h'
  refine ⟨a, hsettle, fun name hname => hkept' name ?_⟩
  exact Bears.settle (.inl (hkept name hname)) hsettle'

/-! ## Words -/

theorem await_ok (h : s.await option = .ok s') :
    ∃ a, s.settle = .ok a ∧ s' = ⟨a, some (option, none)⟩ := by
  unfold await at h
  cases hsettle : s.settle with
  | error e =>
      rw [hsettle] at h
      cases h
  | ok a =>
      rw [hsettle] at h
      cases h
      exact ⟨a, rfl, rfl⟩

theorem give_ok (h : s.give option value = .ok s') :
    ∃ a a', s.settle = .ok a ∧ a.set option value = .ok a' ∧ s' = ⟨a', none⟩ := by
  unfold give at h
  cases hsettle : s.settle with
  | error e =>
      rw [hsettle] at h
      cases h
  | ok a =>
      simp only [hsettle] at h
      cases hset : a.set option value with
      | error e =>
          rw [hset] at h
          cases h
      | ok a' =>
          rw [hset] at h
          cases h
          exact ⟨a, a', rfl, hset, rfl⟩

theorem await_onward (h : s.await option = .ok s') : s.Onward s' := by
  obtain ⟨a, hsettle, rfl⟩ := await_ok h
  exact ⟨a, hsettle, fun _ hname => hname⟩

theorem give_onward (h : s.give option value = .ok s') : s.Onward s' := by
  obtain ⟨a, a', hsettle, hset, rfl⟩ := give_ok h
  exact ⟨a, hsettle, fun _ hname => set_mission hset hname⟩

theorem raise_onward {flag : Flag} (h : s.raise flag = .ok s') : s.Onward s' := by
  unfold raise at h
  cases hsettle : s.settle with
  | error e =>
      rw [hsettle] at h
      cases h
  | ok a =>
      simp only [hsettle] at h
      refine ⟨a, hsettle, fun _ hname => ?_⟩
      cases flag with
      | help | version => cases h
      | land | records =>
          dsimp only at h
          split at h
          · cases h
          · cases h
            exact hname

theorem long_onward {value : Option String} (h : s.long name value = .ok s') : s.Onward s' := by
  unfold long at h
  split at h
  · cases h
  · exact await_onward h
  · exact give_onward h
  · exact raise_onward h
  · cases h

theorem letters_onward {letters : List Char} (hletters : letters ≠ [])
    (h : s.letters letters = .ok s') : s.Onward s' := by
  induction letters generalizing s with
  | nil => exact absurd rfl hletters
  | cons letter rest ih =>
      unfold CommandLineScan.letters at h
      split at h
      · cases h
      · split at h
        · exact await_onward h
        · exact give_onward h
        · exact give_onward h
      · split at h
        · rename_i next hraise
          have hfirst := raise_onward hraise
          cases rest with
          | nil =>
              cases h
              exact hfirst
          | cons _ _ => exact hfirst.trans (ih (List.cons_ne_nil _ _) h)
        · cases h

/-- **What a word does that is accepted**: it is the value that the last option waits for, or that
option is looked at. -/
theorem word_cases (h : s.word w = .ok s') :
    (∃ option, s.pending = some (option, none) ∧
      s' = { s with pending := some (option, some w) }) ∨ s.Onward s' := by
  unfold word at h
  split at h
  · split at h
    · exact .inr (long_onward h)
    · exact .inr (long_onward h)
  · exact .inr (letters_onward (List.cons_ne_nil _ _) h)
  · unfold plain at h
    split at h
    · rename_i option hpending
      cases h
      exact .inl ⟨option, hpending, rfl⟩
    · cases h

/-- A selector that was given stays, whatever words follow. -/
theorem Bears.words {ws : List String} (hs : s.Bears name) (h : s.words ws = .ok s') :
    s'.Bears name := by
  induction ws generalizing s with
  | nil =>
      cases h
      exact hs
  | cons w rest ih =>
      unfold CommandLineScan.words at h
      split at h
      · split at h
        · cases h
          exact hs
        · cases h
      · split at h
        · rename_i next hword
          refine ih ?_ h
          rcases word_cases hword with ⟨option, hpending, rfl⟩ | honward
          · rcases hs with hread | hmission
            · exact .inl hread
            · rw [hpending] at hmission
              cases hmission
          · exact honward.bears hs
        · cases h

/-- Where a command line is accepted, its last words are read by some scan. -/
theorem exists_words_of_append {front back : List String} (hback : back ≠ [])
    (h : s.words (front ++ back) = .ok s') : ∃ middle : CommandLineScan,
      middle.words back = .ok s' := by
  induction front generalizing s with
  | nil => exact ⟨s, h⟩
  | cons w rest ih =>
      rw [List.cons_append] at h
      unfold CommandLineScan.words at h
      split at h
      · simp [hback] at h
      · split at h
        · exact ih h
        · cases h

/-- A word that is accepted and does not end the options. -/
theorem exists_word_of_words {back : List String} (hw : w ≠ "--")
    (h : s.words (w :: back) = .ok s') :
    ∃ next, s.word w = .ok next ∧ next.words back = .ok s' := by
  unfold CommandLineScan.words at h
  rw [if_neg hw] at h
  cases hword : s.word w with
  | error e =>
      rw [hword] at h
      cases h
  | ok next =>
      rw [hword] at h
      exact ⟨next, rfl, h⟩

/-! ## The option for a mission -/

/-- The option joined to a selector does not end the options. -/
theorem joined_ne (name : String) : "--mission=" ++ name ≠ "--" := by
  intro heq
  have hchars := congrArg String.toList heq
  rw [String.toList_append] at hchars
  cases hchars

theorem word_joined (s : CommandLineScan) (name : String) :
    s.word ("--mission=" ++ name) = s.give .mission name := by
  have hword : ("--mission=" ++ name).toList =
      '-' :: '-' :: ("mission=".toList ++ name.toList) := by
    rw [String.toList_append]
    rfl
  have hvalue : ("mission=".toList ++ name.toList).dropWhile (· ≠ '=') = '=' :: name.toList := rfl
  have hname : ("mission=".toList ++ name.toList).takeWhile (· ≠ '=') = "mission".toList := rfl
  have hnamed : named? "mission" = some (.inl .mission) := by decide
  simp only [word, hword, hvalue, hname, String.ofList_toList, long, hnamed]

theorem word_apart (s : CommandLineScan) : s.word "--mission" = s.await .mission := by
  have hword : "--mission".toList = '-' :: '-' :: "mission".toList := rfl
  have hvalue : "mission".toList.dropWhile (· ≠ '=') = [] := rfl
  have hnamed : named? "mission" = some (.inl .mission) := by decide
  simp only [word, hword, hvalue, String.ofList_toList, long, hnamed]

/-- The option joined to a selector. -/
theorem bears_of_joined {back : List String}
    (h : s.words (("--mission=" ++ name) :: back) = .ok s') : s'.Bears name := by
  obtain ⟨next, hword, hrest⟩ := exists_word_of_words (joined_ne name) h
  rw [word_joined] at hword
  obtain ⟨a, a', -, hset, rfl⟩ := give_ok hword
  exact Bears.words (.inl (mission_of_set hset)) hrest

/-- The option with a selector in a word of its own. -/
theorem bears_of_apart {back : List String} (h : s.words ("--mission" :: name :: back) = .ok s')
    (hsettle : s'.settle = .ok a) : s'.Bears name := by
  obtain ⟨next, hword, hrest⟩ := exists_word_of_words (by decide) h
  rw [word_apart] at hword
  obtain ⟨before, -, rfl⟩ := await_ok hword
  by_cases hname : name = "--"
  · -- the option still waits for its value when the options end
    unfold CommandLineScan.words at hrest
    rw [if_pos hname] at hrest
    split at hrest
    · cases hrest
      cases hsettle
    · cases hrest
  · obtain ⟨last, hvalue, hlater⟩ := exists_word_of_words hname hrest
    rcases word_cases hvalue with ⟨option, hpending, rfl⟩ | ⟨a, hnone, -⟩
    · cases hpending
      exact Bears.words (.inr rfl) hlater
    · cases hnone

end CommandLineScan

namespace Arguments

open CommandLineScan

variable {a : Arguments} {name : String} {front back words : List String}

/-- A command line is read to its end, and then its last option is looked at. -/
theorem exists_scan (h : ofWords words = .ok a) : ∃ s : CommandLineScan,
    (CommandLineScan.mk .blank none).words words = .ok s ∧ s.settle = .ok a := by
  unfold ofWords at h
  cases hwords : (CommandLineScan.mk .blank none).words words with
  | error e =>
      rw [hwords] at h
      cases h
  | ok s =>
      rw [hwords] at h
      exact ⟨s, rfl, h⟩

theorem mission_of_joined (h : ofWords (front ++ ("--mission=" ++ name) :: back) = .ok a) :
    a.mission = some name := by
  obtain ⟨s, hwords, hsettle⟩ := exists_scan h
  obtain ⟨middle, hmiddle⟩ := exists_words_of_append (List.cons_ne_nil _ _) hwords
  exact (bears_of_joined hmiddle).settle hsettle

theorem mission_of_apart (h : ofWords (front ++ "--mission" :: name :: back) = .ok a) :
    a.mission = some name := by
  obtain ⟨s, hwords, hsettle⟩ := exists_scan h
  obtain ⟨middle, hmiddle⟩ := exists_words_of_append (List.cons_ne_nil _ _) hwords
  exact (bears_of_apart hmiddle hsettle).settle hsettle

/-- The option can be given for every selector. -/
theorem ofWords_joined (name : String) :
    ofWords ["--mission=" ++ name] = .ok { blank with mission := some name } := by
  unfold ofWords CommandLineScan.words
  rw [if_neg (joined_ne name), word_joined]
  rfl

/-- The script has one command for a mission if there is a selector. -/
theorem filter_script (h : a.mission = some name) :
    a.script.filter (·.isMission) = [missionCommand name] := by
  have htakeoff : (a.takeoff.toList.map Command.takeoff).filter (·.isMission) = [] := by
    cases a.takeoff <;> rfl
  have hmission : (missionCommand name).isMission = true := by
    unfold missionCommand
    cases naturalOf? name <;> rfl
  have hland : (if a.land then [Command.land true] else []).filter (·.isMission) = [] := by
    cases a.land <;> rfl
  rw [script, h, List.filter_append, List.filter_append, htakeoff, hland]
  simp [hmission]

/-! ## The names of missions -/

/-- **What the option does with the name of a configured mission**, in its place. -/
structure MissionOption (c : Config) (d : Dispatcher) (i : Nat) (m : MissionConfig) : Prop where
  /-- It can be given for every name. -/
  accepted : ofWords ["--mission=" ++ m.name] = .ok { blank with mission := some m.name }
  /-- In every command line that is accepted it makes the one command for a mission. -/
  scripted : ∀ front back a,
    (ofWords (front ++ ("--mission=" ++ m.name) :: back) = .ok a ∨
      ofWords (front ++ "--mission" :: m.name :: back) = .ok a) →
    a.script.filter (·.isMission) = [missionCommand m.name]
  /-- The command flies the mission exactly if its name is no number but its own. -/
  flies : d.resolve (missionCommand m.name) = .ok (.navigate (.mission m.mission)) ↔
    ∀ n, naturalOf? m.name = some n → n = i + 1
  /-- Otherwise it flies the mission in the place that the name tells, or none. -/
  strays : ∀ n, naturalOf? m.name = some n → n ≠ i + 1 →
    (∃ (k : Nat) (other : MissionConfig), n = k + 1 ∧ c.missions[k]? = some other ∧
      d.resolve (missionCommand m.name) = .ok (.navigate (.mission other.mission))) ∨
    d.resolve (missionCommand m.name) = .error (.unknownMission (naturalText n))

variable {c : Config} {d : Dispatcher} {i : Nat} {m : MissionConfig}

/-- The command of a selector that is no number. -/
theorem missionCommand_of_none (h : naturalOf? name = none) :
    missionCommand name = .mission none (some name) none := by
  rw [missionCommand, h]

/-- The command of a selector that is a number. -/
theorem missionCommand_of_some {n : Nat} (h : naturalOf? name = some n) :
    missionCommand name = .mission (some n) none none := by
  rw [missionCommand, h]

/-- The command of the name of a mission flies it exactly if the name is no number but its own. -/
theorem resolve_missionCommand_iff (hcheck : c.check = .ok ()) (hm : c.missions[i]? = some m)
    (hd : d.missions = c.flyable) (hattached : d.attached = true) :
    d.resolve (missionCommand m.name) = .ok (.navigate (.mission m.mission)) ↔
      ∀ n, naturalOf? m.name = some n → n = i + 1 := by
  have hgood := c.check_ok_iff.mp hcheck
  obtain ⟨hbyNumber, hbyName⟩ := Config.findMission_of_check hcheck hd hm none
  cases hnumber : naturalOf? m.name with
  | none =>
      rw [missionCommand_of_none hnumber, Dispatcher.resolve_mission hattached, hbyName]
      exact iff_of_true rfl nofun
  | some n =>
      rw [missionCommand_of_some hnumber, Dispatcher.resolve_mission hattached]
      constructor
      · rintro hflies n' ⟨⟩
        cases hfind : d.findMission (some n) none with
        | error e =>
            rw [hfind] at hflies
            cases hflies
        | ok found =>
            obtain ⟨k, rfl, hplace⟩ := Dispatcher.findMission_number_iff.mp hfind
            rw [hd] at hplace
            obtain ⟨other, hother, rfl⟩ := Config.getElem?_flyable.mp hplace
            have hname : other.name = m.name := by
              rw [hfind] at hflies
              injection hflies with herrand
              injection herrand with hrequest
              injection hrequest with hmission
              exact congrArg Mission.name hmission
            rw [hgood.eq_of_name hm hother hname]
      · intro hown
        obtain rfl := hown n rfl
        rw [hbyNumber]
        rfl

/-- The command of a name that is a number flies the mission in that place, or none. -/
theorem resolve_missionCommand_of_some (hcheck : c.check = .ok ()) (hd : d.missions = c.flyable)
    (hattached : d.attached = true) {n : Nat} (hnumber : naturalOf? name = some n) :
    (∃ (k : Nat) (other : MissionConfig), n = k + 1 ∧ c.missions[k]? = some other ∧
      d.resolve (missionCommand name) = .ok (.navigate (.mission other.mission))) ∨
    d.resolve (missionCommand name) = .error (.unknownMission (naturalText n)) := by
  rw [missionCommand_of_some hnumber, Dispatcher.resolve_mission hattached]
  by_cases hlacks : n = 0 ∨ d.missions.length < n
  · right
    rw [d.selects.number_lacks (some n) hlacks]
    rfl
  · left
    obtain ⟨hpos, hlength⟩ := not_or.mp hlacks
    obtain ⟨k, rfl⟩ := Nat.exists_eq_succ_of_ne_zero hpos
    have hk : k < c.missions.length := by
      rw [hd, Config.flyable, List.length_map] at hlength
      exact Nat.lt_of_succ_le (Nat.le_of_not_lt hlength)
    have hother := List.getElem?_eq_getElem hk
    refine ⟨k, _, rfl, hother, ?_⟩
    rw [(Config.findMission_of_check hcheck hd hother none).1]
    rfl

/-- **The option with the name of a mission flies that mission, unless the name is the number of
another place.** -/
theorem mission_option_flies_iff (hcheck : c.check = .ok ()) (hm : c.missions[i]? = some m)
    (hd : d.missions = c.flyable) (hattached : d.attached = true) : MissionOption c d i m where
  accepted := ofWords_joined m.name
  scripted := by
    rintro front back a (hjoined | hapart)
    · exact filter_script (mission_of_joined hjoined)
    · exact filter_script (mission_of_apart hapart)
  flies := resolve_missionCommand_iff hcheck hm hd hattached
  strays _ hnumber _ := resolve_missionCommand_of_some hcheck hd hattached hnumber

/-- The command line names the patrol, and the patrol is flown. -/
theorem mission_option_flies_patrol :
    let d := (Dispatcher.new Config.patrolStation.flyable).attach
    ∃ a, ofWords ["--mission=patrol", "--land"] = .ok a ∧
      a.script.filter (·.isMission) = [missionCommand "patrol"] ∧
      d.resolve (missionCommand "patrol") =
        .ok (.navigate (.mission Config.patrol.mission)) := by
  intro d
  have hcheck : Config.patrolStation.check = .ok () := by decide +kernel
  have hoption : MissionOption Config.patrolStation d 1 Config.patrol :=
    mission_option_flies_iff hcheck rfl rfl rfl
  have hread : ∃ a, ofWords ["--mission=patrol", "--land"] = .ok a := ⟨_, rfl⟩
  have hname : naturalOf? Config.patrol.name = none := by decide
  obtain ⟨a, ha⟩ := hread
  refine ⟨a, ha, hoption.scripted [] ["--land"] a (.inl ha), hoption.flies.mpr ?_⟩
  rw [hname]
  nofun

/-- Two missions, each of which has the number of the other one for its name. -/
def crossedStation : Config :=
  ⟨.default, .default, .default,
    [⟨"2", true, [⟨47.5, 8.5, 10.0, 0.0⟩]⟩, ⟨"1", false, [⟨47.0, 8.0, 20.0, 0.0⟩]⟩]⟩

/-- **A mission whose name is the number of another one is not flown by its name**: the other one
is. -/
theorem mission_option_flies_other :
    let d := (Dispatcher.new crossedStation.flyable).attach
    crossedStation.check = .ok () ∧ crossedStation.missions[0]?.map (·.name) = some "2" ∧
      (ofWords ["--mission=2"]).map script = .ok [.mission (some 2) none none] ∧
      d.resolve (.mission (some 2) none none) =
        .ok (.navigate (.mission ⟨"1", [.new 47.0 8.0 20.0 0.0], false⟩)) := by
  decide +kernel

end Arguments

end GroundStation
