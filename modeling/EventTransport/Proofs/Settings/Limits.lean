import EventTransport.Proofs.Settings.Options
import Mathlib.Data.List.Induction

/-!
Contract: the frame limit of a channel over runs that may fail.

Owns:
- `Configurator.runs`, sheets run in turn;
- `Configurator.PutsZero`, a run that sets the limit to zero and fails by it, or behind it;
- that a limit of zero comes into force in such a run only, and stays until a limit is set again.

A limit is set before it is checked, and is not taken back. So what is in force after a failed run
is what was set before it failed.

Does not own: what other settings are after a failed run.
-/

namespace EventTransport

namespace Configurator

variable {τ : Type} [Configurable τ]

/-- Sheets run in turn, whether they fail or not. -/
def runs {σ : Type} [Configurable σ] (configurator : Configurator σ) (sheets : List String) :
    Configurator σ :=
  sheets.foldl (fun now sheet => (now.run sheet).state) configurator

/-- The settings that are handed over behind a frame limit and can be refused. -/
def behindLimit : List String := ["nodelay", "read_buffer_size"]

/-- The settings that a sheet has for a context. -/
def Offers (context sheet : String) (members : List (String × Json.Value)) : Prop :=
  ∃ contexts, Json.read sheet = .ok (.object contexts) ∧
    Keyed.get? context contexts = some (.object members)

/-- A limit given to a context by a sheet. -/
def Gives (context sheet : String) (size : Nat) : Prop :=
  ∃ members text, Offers context sheet members ∧
    settingText? "max_frame_size" members = some text ∧ Config.DenotesSize text size

/-- A run that gives a context a limit of zero, and fails there: by the limit, or by a setting
behind it. -/
structure PutsZero (configurator : Configurator (Config ⊕ τ)) (context sheet : String) : Prop where
  given : Gives context sheet 0
  failed : ∃ config members error, configurator.target? context = some (.inl config) ∧
    Offers context sheet members ∧ (applySettings context config members).result = .error error ∧
    (configurator.run sheet).result = .error error ∧
    (error = .config "max_frame_size" .zeroLimit ∨
      ∃ key ∈ behindLimit, ∃ cause, error = .config key (.unreadable cause))

/-- A limit that is in force for a context. -/
def HasLimit (configurator : Configurator (Config ⊕ τ)) (context : String) (limit : Nat) : Prop :=
  ∃ config, configurator.target? context = some (.inl config) ∧ config.maxFrameSize = limit

variable {configurator : Configurator (Config ⊕ τ)} {context : String} {config : Config}

theorem runs_snoc {σ : Type} [Configurable σ] (configurator : Configurator σ) (sheets : List String)
    (sheet : String) :
    configurator.runs (sheets ++ [sheet]) = ((configurator.runs sheets).run sheet).state := by
  unfold runs
  rw [List.foldl_append]
  rfl

/-- A limit of zero does not pass the check: handing over settings fails, by the limit or by a
setting behind it. -/
theorem exists_error_of_zero {last : Config} {members : List (String × Json.Value)}
    {outcome : Except Error Unit} (hands : Hands config members last outcome)
    (zero : last.maxFrameSize = 0)
    (accepted : ∀ fault, outcome ≠ .error (.config "max_frame_size" (.unreadable fault))) :
    ∃ error, outcome = .error error ∧ (error = .config "max_frame_size" .zeroLimit ∨
      ∃ key ∈ behindLimit, ∃ cause, error = .config key (.unreadable cause)) := by
  cases outcome with
  | ok done => exact absurd zero (Config.maxFrameSize_ne_zero_of_hands hands)
  | error error =>
      refine ⟨error, rfl, ?_⟩
      obtain ⟨isZero, -⟩ | ⟨member, -, known, cause, rfl⟩ := Config.error_of_hands hands
      · exact .inl isZero
      · refine .inr ⟨member.1, ?_, cause, rfl⟩
        have notLimit : member.1 ≠ "max_frame_size" := fun same => accepted cause (same ▸ rfl)
        simp only [Config.knownSettings, List.mem_cons, notLimit, false_or] at known
        simp only [behindLimit, List.mem_cons]
        tauto

/-- What a run does to a limit: it keeps it, or sets it to the one that the sheet gives, and fails
there if that is zero. -/
theorem limit_of_run {limit : Nat} (has : configurator.HasLimit context limit) (sheet : String) :
    (configurator.run sheet).state.HasLimit context limit ∨
      ∃ size, (configurator.run sheet).state.HasLimit context size ∧ Gives context sheet size ∧
        (size = 0 → PutsZero configurator context sheet) := by
  obtain ⟨config, claimed, isLimit⟩ := has
  obtain ⟨contexts, isRead⟩ | unread : (∃ contexts, Json.read sheet = .ok (.object contexts)) ∨
      (configurator.run sheet).state = configurator := by
    unfold run
    split
    · exact .inr rfl
    · rename_i contexts isRead
      exact .inl ⟨contexts, isRead⟩
    · exact .inr rfl
  · cases visits_run claimed isRead with
    | passes same _ => exact .inl ⟨config, same, isLimit⟩
    | @pushes members present pushed fails =>
        rw [applySettings_inl] at pushed fails
        have hands := hands_applySettings context config members
        have offers : Offers context sheet members := ⟨contexts, isRead, present⟩
        have sorted := (Json.sorted_of_read isRead).2 context members present
        cases SizeSetting.frameLimit.outcome_of_hands hands sorted with
        | kept same _ => exact .inl ⟨_, pushed, same.trans isLimit⟩
        | @given text isText denotes accepted =>
            refine .inr ⟨_, ⟨_, pushed, rfl⟩, ⟨members, text, offers, isText, denotes⟩,
              fun zero => ?_⟩
            obtain ⟨error, failed, cause⟩ := exists_error_of_zero hands zero accepted
            have denotesZero : Config.DenotesSize text 0 := zero ▸ denotes
            exact ⟨⟨members, text, offers, isText, denotesZero⟩,
              config, members, error, claimed, offers, failed, fails error failed, cause⟩
  · rw [unread]
    exact .inl ⟨config, claimed, isLimit⟩

/-- **A limit of zero is set before it is refused, and is not taken back.** After any number of runs
the limit of a channel that had one is zero only by a run whose sheet gave it as zero. That run
failed in the context of the channel, by the check of the limit or by a setting behind it that was
refused, and the limit has been zero since. -/
theorem zero_limit_of_failed_run (claimed : configurator.target? context = some (.inl config))
    (positive : 0 < config.maxFrameSize) (sheets : List String) :
    ∃ limit, (configurator.runs sheets).HasLimit context limit ∧
      (limit = 0 → ∃ before sheet after, sheets = before ++ sheet :: after ∧
        PutsZero (configurator.runs before) context sheet ∧
        ∀ front, front <+: after →
          (configurator.runs (before ++ sheet :: front)).HasLimit context 0) := by
  induction sheets using List.reverseRecOn with
  | nil => exact ⟨_, ⟨config, claimed, rfl⟩, fun zero => absurd zero (Nat.ne_of_gt positive)⟩
  | append_singleton sheets sheet inductionHypothesis =>
      obtain ⟨limit, has, earlier⟩ := inductionHypothesis
      rw [runs_snoc]
      obtain kept | ⟨size, set, _, puts⟩ := limit_of_run has sheet
      · refine ⟨limit, kept, fun zero => ?_⟩
        obtain ⟨before, putting, after, rfl, puts, since⟩ := earlier zero
        refine ⟨before, putting, after ++ [sheet], by simp, puts, fun front within => ?_⟩
        -- A run that keeps the limit is one more since it was put.
        obtain whole | shorter := List.prefix_concat_iff.mp within
        · rw [whole, ← List.cons_append, ← List.append_assoc, runs_snoc]
          exact zero ▸ kept
        · exact since front shorter
      · refine ⟨size, set, fun zero => ⟨sheets, sheet, [], rfl, puts zero, fun front within => ?_⟩⟩
        rw [List.prefix_nil.mp within, runs_snoc]
        exact zero ▸ set

/-- A limit that is set is zeroed by a sheet with a switch that is refused, and stays so when
another context is refused. -/
theorem zero_limit_of_failed_run_of_refused_switch :
    let configurator : Configurator (Config ⊕ Config) := ⟨[("C", .inl {}), ("D", .inr {})]⟩
    let sheets :=
      ["\x7b\"C\":\x7b\"max_frame_size\":7\x7d\x7d",
        "\x7b\"C\":\x7b\"max_frame_size\":0,\"nodelay\":1\x7d\x7d",
        "\x7b\"D\":\x7b\"max_frame_size\":0\x7d\x7d"]
    (configurator.runs sheets).HasLimit "C" 0 ∧
      ∃ before sheet after, sheets = before ++ sheet :: after ∧
        PutsZero (configurator.runs before) "C" sheet := by
  intro configurator sheets
  have final : (configurator.runs sheets).target? "C" = some (.inl { maxFrameSize := 0 }) := by
    decide +kernel
  have claimed : configurator.target? "C" = some (.inl {}) := rfl
  obtain ⟨limit, ⟨config, found, isLimit⟩, putsZero⟩ :=
    zero_limit_of_failed_run claimed (by decide) sheets
  have isZero : limit = 0 := by
    rw [final] at found
    cases found
    exact isLimit.symm
  obtain ⟨before, sheet, after, cut, puts, -⟩ := putsZero isZero
  exact ⟨⟨_, final, rfl⟩, before, sheet, after, cut, puts⟩

/-- A limit that the check has refused stays in force. -/
theorem refused_limit_stays :
    let configurator : Configurator Config := ⟨[("C", {})]⟩
    let sheet := "\x7b\"C\":\x7b\"max_frame_size\":0\x7d\x7d"
    configurator.target? "C" = some { maxFrameSize := defaultLimit } ∧ 0 < defaultLimit ∧
      (configurator.run sheet).result = .error (.config "max_frame_size" .zeroLimit) ∧
      (configurator.run sheet).state.target? "C" = some { maxFrameSize := 0 } := by
  have isRead : Json.readDocument "\x7b\"C\":\x7b\"max_frame_size\":0\x7d\x7d" =
      .ok (.object [("C", .object [("max_frame_size", .number (.natural 0))])]) := by
    with_unfolding_all rfl
  intro configurator sheet
  refine ⟨rfl, by decide, ?_, ?_⟩
  · rw [run_of_document isRead]
    with_unfolding_all rfl
  · rw [run_of_document isRead]
    decide +kernel

end Configurator

end EventTransport
