import EventTransport.Proofs.Settings.Options

/-!
Contract: sizes pushed into the settings of a channel through a sheet.

Owns:
- `Json.WritesSize` and `Json.Value.IsSize`, a size as a number or as the text of its digits, in a
  sheet and as it is read;
- `SizeSetting.TakesPushed`, by which a size pushed into a setting is its size afterwards;
- what the settings of a channel accept, and how that agrees with what is pushed.

Does not own: why a text is refused.
-/

namespace EventTransport

namespace Json

/-- A size as it is written in a sheet: as a number, or between quotes. -/
def WritesSize (size : Nat) (written : List Char) : Prop :=
  written = Nat.toDigits 10 size ∨
    ∃ digits, Quotes digits (toString size) ∧ written = '"' :: digits ++ ['"']

/-- A size as it is read: as a number, or as a text. -/
def Value.IsSize (size : Nat) (value : Value) : Prop :=
  value = .number (.natural size) ∨ value = .text (toString size)

theorem Value.IsSize.isText {size : Nat} {value : Value} (isSize : value.IsSize size) :
    value.scalar? = some (toString size) := by
  obtain rfl | rfl := isSize <;> rfl

theorem exists_document_of_writesSize {size : Nat} (fits : size < 2 ^ 64) {written : List Char}
    (writes : WritesSize size written) :
    ∃ document, document.value.IsSize size ∧
      ∀ calls depth, Writes (calls + 1) depth written document := by
  obtain rfl | ⟨digits, quotes, rfl⟩ := writes
  · exact ⟨.number (.natural size), .inl rfl, writes_natural (Nat.le_of_lt_succ fits)⟩
  · exact ⟨.text (toString size), .inr rfl, writes_text quotes⟩

end Json

open Json

variable {τ : Type} [Configurable τ] {configurator : Configurator (Config ⊕ τ)} {context : String}
  {config : Config}

/-- A size that is pushed into a setting is its size afterwards: alone in a sheet, however it is
written, and among other settings and contexts, unless the run fails. -/
structure SizeSetting.TakesPushed (setting : SizeSetting) (configurator : Configurator (Config ⊕ τ))
    (context : String) (config : Config) (size : Nat) : Prop where
  alone : ∀ outer inner written, Quotes outer context → Quotes inner setting.key →
    WritesSize size written →
    configurator.run (String.ofList (objectOf outer (objectOf inner written))) =
      { state := configurator.replace context (.inl (setting.store config size))
        result := (setting.store config size).configure.result }
  among : ∀ sheet contexts members value, read sheet = .ok (.object contexts) →
    Keyed.get? context contexts = some (.object members) →
    Keyed.get? setting.key members = some value → value.IsSize size →
    (configurator.run sheet).result = .ok () →
    ∃ changed, (configurator.run sheet).state.target? context = some (.inl changed) ∧
      setting.size changed = size

theorem Config.configure_eq (config : Config) :
    config.configure = { state := config, result := config.configure.result } := by
  unfold Config.configure
  split <;> rfl

/-- A size that has been handed over as the text of its digits. -/
theorem SizeSetting.size_of_hands (setting : SizeSetting) {members : List (String × Json.Value)}
    {last : Config} {size : Nat} (hands : Configurator.Hands config members last (.ok ()))
    (sorted : Keyed.Sorted members)
    (isText : settingText? setting.key members = some (toString size)) (fits : size < 2 ^ 64) :
    setting.size last = size := by
  cases setting.outcome_of_hands hands sorted with
  | kept _ notGiven =>
      rw [notGiven rfl] at isText
      cases isText
  | given isGiven denotes _ =>
      cases Option.some.inj (isGiven.symm.trans isText)
      exact denotes.unique (Config.denotesSize_toString fits)

theorem SizeSetting.takesPushed (setting : SizeSetting)
    (claimed : configurator.target? context = some (.inl config)) {size : Nat}
    (fits : size < 2 ^ 64) :
    setting.TakesPushed configurator context config size where
  alone outer inner written quotesOuter quotesInner writes := by
    obtain ⟨document, isSize, isWritten⟩ := exists_document_of_writesSize fits writes
    have taken := (setting.takes config).taken _ size (Config.denotesSize_toString fits)
    have sets : Configurable.setOption (.inl config : Config ⊕ τ) setting.key (toString size) =
        { state := .inl (setting.store config size) } := by
      show (config.setOption setting.key (toString size)).map Sum.inl = _
      rw [taken]
      rfl
    rw [Configurator.run_objectOf claimed quotesOuter quotesInner isWritten isSize.isText sets]
    show ((setting.store config size).configure.map Sum.inl).within configurator context = _
    rw [Config.configure_eq]
    rfl
  among sheet contexts members value isRead present found isSize succeeded := by
    have sorted := (sorted_of_read isRead).2 context members present
    have isText : settingText? setting.key members = some (toString size) := by
      unfold settingText?
      rw [found]
      exact isSize.isText
    cases Configurator.visits_run claimed isRead with
    | passes _ absent => exact absurd present (absent succeeded members)
    | @pushes pushes isPresent pushed fails =>
        cases Option.some.inj (isPresent.symm.trans present)
        rw [Configurator.applySettings_inl] at pushed fails
        have finished : (Configurator.applySettings context config members).result = .ok () := by
          cases outcome : (Configurator.applySettings context config members).result with
          | ok done => rfl
          | error error =>
              have failed := fails error outcome
              rw [succeeded] at failed
              cases failed
        have hands := Configurator.hands_applySettings context config members
        exact ⟨_, pushed, setting.size_of_hands (finished ▸ hands) sorted isText fits⟩

namespace Config

/-- **Settings take the texts that stand for their values, and no others.** A size is taken from a
text that is, between blanks, an optional plus sign and ASCII digits for a number of sixty-four
bits, and it is that number; a switch from one of two words, in any case. All other settings are
ignored. What is refused leaves all three settings as they are, with an error that names the one
that it was meant for.

A size of sixty-four bits that is pushed into a channel among other components, as a number or as a
text, is the size afterwards. -/
theorem takes_exactly_denoting_texts (config : Config) :
    (config.TakesExactly "max_frame_size" DenotesSize fun size =>
      { config with maxFrameSize := size }) ∧
    (config.TakesExactly "read_buffer_size" DenotesSize fun size =>
      { config with readBufferSize := size }) ∧
    (config.TakesExactly "nodelay" DenotesSwitch fun switch => { config with noDelay := switch }) ∧
    (∀ key text, key ≠ "max_frame_size" → key ≠ "read_buffer_size" → key ≠ "nodelay" →
      config.setOption key text = { state := config, warnings := [.unknownSetting key] }) ∧
    ∀ {τ : Type} [Configurable τ] (configurator : Configurator (Config ⊕ τ)) (context : String),
      configurator.target? context = some (.inl config) → ∀ size < 2 ^ 64,
        SizeSetting.frameLimit.TakesPushed configurator context config size ∧
          SizeSetting.readBuffer.TakesPushed configurator context config size := by
  refine ⟨config.takes_maxFrameSize, config.takes_readBufferSize, config.takes_noDelay, ?_, ?_⟩
  · intro key text notLimit notBuffer notSwitch
    exact config.setOption_of_unknown notLimit notBuffer notSwitch text
  · intro τ _ configurator context claimed size fits
    exact ⟨SizeSetting.frameLimit.takesPushed claimed fits,
      SizeSetting.readBuffer.takesPushed claimed fits⟩

/-- Blanks, a plus sign and leading zeros are no part of a number, nor is the case of a
word, and one more than the greatest size is refused. The greatest size is pushed as a
number and as a text. -/
theorem takes_exactly_denoting_texts_of_greatest :
    let config : Config := {}
    let configurator : Configurator (Config ⊕ Config) := ⟨[("C", .inl config)]⟩
    let greatest := 18446744073709551615
    let pushed : Configurator (Config ⊕ Config) :=
      ⟨[("C", .inl { config with maxFrameSize := greatest })]⟩
    config.setOption "max_frame_size" "\u00a0+0042\n" =
      { state := { config with maxFrameSize := 42 } } ∧
      config.setOption "nodelay" " FALSE" = { state := { config with noDelay := false } } ∧
      (∃ fault, config.setOption "read_buffer_size" "18446744073709551616" =
        { state := config, result := .error (.config "read_buffer_size" (.unreadable fault)) }) ∧
      configurator.run "\x7b\"C\":\x7b\"max_frame_size\":18446744073709551615\x7d\x7d" =
        { state := pushed } ∧
      configurator.run "\x7b\"C\":\x7b\"max_frame_size\":\"18446744073709551615\"\x7d\x7d" =
        { state := pushed } := by
  intro config configurator greatest pushed
  obtain ⟨limit, buffer, switch, -, pushes⟩ := takes_exactly_denoting_texts config
  obtain ⟨inSheet, -⟩ := pushes configurator "C" rfl greatest (by decide)
  have context : Quotes "C".toList "C" := quotes_of_isPlain (by simp [isPlain])
  have key : Quotes "max_frame_size".toList "max_frame_size" :=
    quotes_of_isPlain (by simp [isPlain])
  have word : DenotesSwitch " FALSE" false := ⟨_, Text.strips_trimChars _, by decide +kernel⟩
  have tooLarge : readSize "18446744073709551616" = .error .tooLarge := by with_unfolding_all rfl
  refine ⟨?_, ?_, ?_, ?_, ?_⟩
  · exact limit.taken _ 42 (readSize_eq_ok_iff.mp rfl)
  · exact switch.taken _ false word
  · refine buffer.refused _ fun size denotes => ?_
    rw [← readSize_eq_ok_iff, tooLarge] at denotes
    cases denotes
  · have sheet : "\x7b\"C\":\x7b\"max_frame_size\":18446744073709551615\x7d\x7d" =
        String.ofList (objectOf "C".toList
          (objectOf "max_frame_size".toList (Nat.toDigits 10 greatest))) := by
      decide +kernel
    rw [sheet]
    exact inSheet.alone _ _ _ context key (.inl rfl)
  · have sheet : "\x7b\"C\":\x7b\"max_frame_size\":\"18446744073709551615\"\x7d\x7d" =
        String.ofList (objectOf "C".toList (objectOf "max_frame_size".toList
          ('"' :: Nat.toDigits 10 greatest ++ ['"']))) := by
      decide +kernel
    rw [sheet]
    exact inSheet.alone _ _ _ context key (.inr ⟨_, quotes_toDigits greatest, rfl⟩)

end Config

end EventTransport
