import EventTransport.Proofs.Settings.Texts
import EventTransport.Proofs.Settings.Visits

/-!
Contract: what the settings of a channel make of the texts that they are given.

Owns:
- `Config.TakesExactly`, a setting that takes the texts for its values and refuses all others;
- `SizeSetting`, the two settings that are sizes;
- `SizeSetting.Outcome`, what has become of a size when the settings of a context have been handed
  over;
- that a size is the same number, however it is pushed.

Does not own: limits that are set and then refused.
-/

namespace EventTransport

namespace Config

/-- A setting that takes the texts that stand for its values. Any other text is refused with an
error that names the setting, and leaves all settings as they are. -/
structure TakesExactly {value : Type} (config : Config) (key : String)
    (denotes : String → value → Prop) (store : value → Config) : Prop where
  taken : ∀ text value, denotes text value → config.setOption key text = { state := store value }
  refused : ∀ text, (∀ value, ¬denotes text value) → ∃ fault,
    config.setOption key text =
      { state := config, result := .error (.config key (.unreadable fault)) }

theorem takesExactly_of_assign {value : Type} {config : Config} {key : String}
    {denotes : String → value → Prop} {store : value → Config}
    {read : String → Except Number.ReadFault value}
    (sets : ∀ text, config.setOption key text = config.assign key (read text) store)
    (reads : ∀ {text value}, read text = .ok value ↔ denotes text value) :
    config.TakesExactly key denotes store where
  taken text value isValue := by
    rw [sets, reads.mpr isValue]
    rfl
  refused text none := by
    rw [sets]
    cases outcome : read text with
    | error fault => exact ⟨fault, rfl⟩
    | ok value => exact absurd (reads.mp outcome) (none value)

theorem takes_maxFrameSize (config : Config) :
    config.TakesExactly "max_frame_size" DenotesSize fun size =>
      { config with maxFrameSize := size } :=
  takesExactly_of_assign (fun _ => if_pos rfl) readSize_eq_ok_iff

theorem takes_readBufferSize (config : Config) :
    config.TakesExactly "read_buffer_size" DenotesSize fun size =>
      { config with readBufferSize := size } :=
  takesExactly_of_assign (fun _ => rfl) readSize_eq_ok_iff

theorem takes_noDelay (config : Config) :
    config.TakesExactly "nodelay" DenotesSwitch fun switch => { config with noDelay := switch } :=
  takesExactly_of_assign (fun _ => rfl) readSwitch_eq_ok_iff

theorem setOption_of_unknown (config : Config) {key : String} (notLimit : key ≠ "max_frame_size")
    (notBuffer : key ≠ "read_buffer_size") (notSwitch : key ≠ "nodelay") (text : String) :
    config.setOption key text = { state := config, warnings := [.unknownSetting key] } := by
  unfold setOption
  rw [if_neg notLimit, if_neg notBuffer, if_neg notSwitch]

theorem assign_keeps {value kept : Type} {config : Config} {store : value → Config}
    (view : Config → kept) (same : ∀ assigned, view (store assigned) = view config) (key : String)
    (read : Except Number.ReadFault value) :
    view (config.assign key read store).state = view config := by
  cases read with
  | error fault => rfl
  | ok assigned => exact same assigned

/-- The settings of a channel. -/
def knownSettings : List String := ["max_frame_size", "read_buffer_size", "nodelay"]

/-- A setting that fails is one of those of a channel, has a text that is not read, and leaves all
as it is. -/
theorem setOption_of_error {config : Config} {key text : String} {error : Error}
    (failed : (config.setOption key text).result = .error error) :
    key ∈ knownSettings ∧ (config.setOption key text).state = config ∧
      ∃ fault, error = .config key (.unreadable fault) := by
  have assigned {value : Type} (read : Except Number.ReadFault value) (store : value → Config)
      (failed : (config.assign key read store).result = .error error) :
      (config.assign key read store).state = config ∧
        ∃ fault, error = .config key (.unreadable fault) := by
    cases read with
    | error fault => exact ⟨rfl, fault, (Except.error.inj failed).symm⟩
    | ok value => cases failed
  unfold setOption at failed ⊢
  unfold knownSettings
  split
  · rename_i limit
    rw [if_pos limit] at failed
    exact ⟨by simp [limit], assigned _ _ failed⟩
  · rename_i notLimit
    rw [if_neg notLimit] at failed
    split
    · rename_i buffer
      rw [if_pos buffer] at failed
      exact ⟨by simp [buffer], assigned _ _ failed⟩
    · rename_i notBuffer
      rw [if_neg notBuffer] at failed
      split
      · rename_i switch
        rw [if_pos switch] at failed
        exact ⟨by simp [switch], assigned _ _ failed⟩
      · rename_i notSwitch
        rw [if_neg notSwitch] at failed
        cases failed

theorem denotesSize_toString {size : Nat} (fits : size < 2 ^ 64) :
    DenotesSize (toString size) size := by
  have ascii : ∀ char ∈ Nat.toDigits 10 size, char.isDigit = true :=
    fun char inside => Nat.isDigit_of_mem_toDigits (by decide) (by decide) inside
  have numeral : IsNumeral (Nat.toDigits 10 size) size :=
    ⟨Nat.toDigits_ne_nil, ascii, Nat.ofDigitChars_ten_toDigits, fits⟩
  have visible : ∀ char ∈ Nat.toDigits 10 size, Text.isBlank char = false :=
    fun char inside => Text.isBlank_of_isDigit (ascii char inside)
  refine ⟨Nat.toDigits 10 size, ?_, Nat.toDigits 10 size, .inl rfl, numeral⟩
  rw [Text.strips_iff, Nat.toString_eq_ofList_toDigits, String.toList_ofList,
    Text.trimChars_eq_self visible]

/-! ### Settings of a context -/

open Configurator (Hands)

variable {config last : Config} {members : List (String × Json.Value)}

/-- Settings fail by a limit of zero, or by one of them that is refused. -/
theorem error_of_hands {error : Error} (hands : Hands config members last (.error error)) :
    (error = .config "max_frame_size" .zeroLimit ∧ last.maxFrameSize = 0) ∨
      ∃ member ∈ members, member.1 ∈ knownSettings ∧
        ∃ fault, error = .config member.1 (.unreadable fault) := by
  generalize isError : (Except.error error : Except Error Unit) = outcome at hands
  induction hands with
  | check config =>
      replace isError : (.error error : Except Error Unit) = config.configure.result := isError
      show _ ∨ _
      unfold configure at isError
      split at isError
      · rename_i zero
        refine .inl ⟨Except.error.inj isError, ?_⟩
        show config.configure.state.maxFrameSize = 0
        unfold configure
        rw [if_pos zero]
        exact zero
      · cases isError
  | skip _ _ inductionHypothesis =>
      obtain zero | ⟨member, inside, fault⟩ := inductionHypothesis isError
      · exact .inl zero
      · exact .inr ⟨member, List.mem_cons_of_mem _ inside, fault⟩
  | @refuse config member _ text _ _ failed =>
      cases isError
      obtain ⟨known, _, fault⟩ := setOption_of_error failed
      exact .inr ⟨member, List.mem_cons_self, known, fault⟩
  | set _ _ _ inductionHypothesis =>
      obtain zero | ⟨member, inside, fault⟩ := inductionHypothesis isError
      · exact .inl zero
      · exact .inr ⟨member, List.mem_cons_of_mem _ inside, fault⟩

/-- Settings that do not fail have been checked. -/
theorem maxFrameSize_ne_zero_of_hands (hands : Hands config members last (.ok ())) :
    last.maxFrameSize ≠ 0 := by
  generalize isOk : (Except.ok () : Except Error Unit) = outcome at hands
  induction hands with
  | check config =>
      replace isOk : .ok () = config.configure.result := isOk
      show config.configure.state.maxFrameSize ≠ 0
      unfold configure at isOk ⊢
      split at isOk
      · cases isOk
      · rename_i notZero
        rw [if_neg notZero]
        exact notZero
  | skip _ _ inductionHypothesis => exact inductionHypothesis isOk
  | refuse => cases isOk
  | set _ _ _ inductionHypothesis => exact inductionHypothesis isOk

end Config

/-! ### Sizes -/

/-- The text that a context has for a setting. -/
def settingText? (key : String) (members : List (String × Json.Value)) : Option String :=
  (Keyed.get? key members).bind Json.Value.scalar?

theorem settingText?_of_head {key : String} {member : String × Json.Value}
    {rest : List (String × Json.Value)} (here : member.1 = key) :
    settingText? key (member :: rest) = member.2.scalar? := by
  unfold settingText? Keyed.get?
  rw [if_pos here.symm]
  rfl

theorem settingText?_of_ne {key : String} {member : String × Json.Value} (apart : member.1 ≠ key)
    (rest : List (String × Json.Value)) :
    settingText? key (member :: rest) = settingText? key rest := by
  unfold settingText?
  rw [Keyed.get?, if_neg (Ne.symm apart)]

/-- A key does not come again behind its place. -/
theorem absent_of_above {key : String} {member : String × Json.Value}
    {rest : List (String × Json.Value)} (here : member.1 = key)
    (above : ∀ other ∈ rest, Keyed.Before member.1 other.1) : ∀ other ∈ rest, other.1 ≠ key := by
  intro other inside same
  have before := above other inside
  rw [here, same] at before
  exact Keyed.Before.irrefl key before

/-- A setting that is a size, apart from the others. -/
structure SizeSetting where
  key : String
  size : Config → Nat
  store : Config → Nat → Config
  takes : ∀ config : Config, config.TakesExactly key Config.DenotesSize (store config)
  size_store : ∀ config value, size (store config value) = value
  spares : ∀ (config : Config) {other : String}, other ≠ key → ∀ text,
    size (config.setOption other text).state = size config
  checked : ∀ config : Config, size config.configure.state = size config

namespace SizeSetting

open Configurator (Hands)

def frameLimit : SizeSetting where
  key := "max_frame_size"
  size := Config.maxFrameSize
  store config size := { config with maxFrameSize := size }
  takes := Config.takes_maxFrameSize
  size_store _ _ := rfl
  spares config other apart text := by
    unfold Config.setOption
    rw [if_neg apart]
    split
    · refine Config.assign_keeps Config.maxFrameSize ?_ other _
      exact fun _ => rfl
    · split
      · refine Config.assign_keeps Config.maxFrameSize ?_ other _
        exact fun _ => rfl
      · rfl
  checked config := by
    unfold Config.configure
    split <;> rfl

def readBuffer : SizeSetting where
  key := "read_buffer_size"
  size := Config.readBufferSize
  store config size := { config with readBufferSize := size }
  takes := Config.takes_readBufferSize
  size_store _ _ := rfl
  spares config other apart text := by
    unfold Config.setOption
    rw [if_neg apart]
    split
    · refine Config.assign_keeps Config.readBufferSize ?_ other _
      exact fun _ => rfl
    · split
      · refine Config.assign_keeps Config.readBufferSize ?_ other _
        exact fun _ => rfl
      · rfl
  checked config := by
    unfold Config.configure
    split <;> rfl

variable {setting : SizeSetting} {config last : Config} {members : List (String × Json.Value)}
  {outcome : Except Error Unit}

/-- What has become of a size when the settings of a context have been handed over: it has been
kept, which it is not if it has a text and nothing fails; or it is what its text says, and is not
what failed. -/
inductive Outcome (setting : SizeSetting) (members : List (String × Json.Value))
    (config last : Config)
    (outcome : Except Error Unit) : Prop
  | kept (same : setting.size last = setting.size config)
      (notGiven : outcome = .ok () → settingText? setting.key members = none)
  | given {text : String} (isText : settingText? setting.key members = some text)
      (denotes : Config.DenotesSize text (setting.size last))
      (accepted : ∀ fault, outcome ≠ .error (.config setting.key (.unreadable fault)))

theorem size_of_absent (hands : Hands config members last outcome)
    (absent : ∀ member ∈ members, member.1 ≠ setting.key) :
    setting.size last = setting.size config := by
  induction hands with
  | check config => exact setting.checked config
  | skip _ _ inductionHypothesis =>
      exact inductionHypothesis fun member inside => absent member (List.mem_cons_of_mem _ inside)
  | @refuse config member _ text =>
      exact setting.spares config (absent member List.mem_cons_self) text
  | @set config _ _ member _ text _ _ _ inductionHypothesis =>
      refine (inductionHypothesis fun member inside =>
        absent member (List.mem_cons_of_mem _ inside)).trans ?_
      exact setting.spares config (absent member List.mem_cons_self) text

theorem Outcome.widen {rest : List (String × Json.Value)} {met : Config}
    (isOutcome : setting.Outcome rest met last outcome)
    (same : setting.size met = setting.size config)
    (found : settingText? setting.key members = settingText? setting.key rest) :
    setting.Outcome members config last outcome := by
  cases isOutcome with
  | kept kept notGiven =>
      exact .kept (kept.trans same) fun succeeded => found.trans (notGiven succeeded)
  | given isText denotes accepted => exact .given (found.trans isText) denotes accepted

/-- The setting is handed over and taken, and no other of its name comes later. -/
theorem outcome_of_taken {member : String × Json.Value} {text : String}
    (here : member.1 = setting.key)
    (isText : member.2.scalar? = some text)
    (taken : (config.setOption member.1 text).result = .ok ())
    (later : Hands (config.setOption member.1 text).state members last outcome)
    (absent : ∀ other ∈ members, other.1 ≠ setting.key) :
    setting.Outcome (member :: members) config last outcome := by
  have isSetting : settingText? setting.key (member :: members) = some text := by
    rw [settingText?_of_head here, isText]
  rw [here] at taken later
  by_cases given : ∃ size, Config.DenotesSize text size
  · obtain ⟨size, denotes⟩ := given
    have isSize : setting.size last = size := by
      rw [size_of_absent later absent, (setting.takes config).taken text size denotes]
      exact setting.size_store config size
    refine .given isSetting (isSize ▸ denotes) fun fault failed => ?_
    rw [failed] at later
    obtain ⟨isZero, -⟩ | ⟨other, inside, -, cause, same⟩ := Config.error_of_hands later
    · injection isZero with _ sameFault
      cases sameFault
    · injection same with sameKey
      exact absent other inside sameKey.symm
  · obtain ⟨fault, refused⟩ := (setting.takes config).refused text (not_exists.mp given)
    rw [refused] at taken
    cases taken

theorem outcome_of_hands (hands : Hands config members last outcome)
    (sorted : Keyed.Sorted members) :
    setting.Outcome members config last outcome := by
  induction hands with
  | check config => exact .kept (setting.checked config) fun _ => rfl
  | @skip _ _ _ member rest noText later inductionHypothesis =>
      obtain ⟨above, sortedRest⟩ := List.pairwise_cons.mp sorted
      by_cases here : member.1 = setting.key
      · have absent := absent_of_above here above
        refine .kept (size_of_absent later absent) fun _ => ?_
        rw [settingText?_of_head here, noText]
      · exact (inductionHypothesis sortedRest).widen rfl (settingText?_of_ne here rest)
  | @refuse config member rest text isText error failed =>
      refine .kept ?_ fun succeeded => nomatch succeeded
      obtain ⟨_, same, _⟩ := Config.setOption_of_error failed
      exact congrArg setting.size same
  | @set config last outcome member rest text isText taken later inductionHypothesis =>
      obtain ⟨above, sortedRest⟩ := List.pairwise_cons.mp sorted
      by_cases here : member.1 = setting.key
      · exact outcome_of_taken here isText taken later (absent_of_above here above)
      · refine (inductionHypothesis sortedRest).widen ?_ (settingText?_of_ne here rest)
        exact setting.spares config here text

end SizeSetting

end EventTransport
