import Mathlib.Control.Monad.Basic
import Nullability.Settings.ConfigText
import Nullability.Settings.Resolution

/-!
Which settings hold for an inspection. Each of the four settings can be given by a flag, by a key of the
configuration text, by both or by neither. `Sayings` keeps what a text says key by key, so that a key that
is missing differs from one that gives the default. The settings are a function of what is given in all,
flags first, and a marker that is no identifier is refused if a flag gives it and passed over if the text
does.
-/

namespace Nullability

open Json

/-- What a configuration text says, key by key; nothing for a key that it does not have. -/
structure Sayings where
  failurePolicy : Option FailurePolicy
  parallel : Option Bool
  marker : Option String
  format : Option OutputFormat
  deriving DecidableEq, Repr

namespace Sayings

/-- The keys of the sections that are there. -/
def ofDenote : Codec.config.shape.Denote → Sayings := fun (classification, records, output, _) =>
  ⟨classification.bind fun section_ => section_.1.map Codec.failurePolicy.ofDenote,
    classification.bind fun section_ => section_.2.1,
    records.bind fun section_ => section_.1,
    output.bind fun section_ => section_.1.map Codec.outputFormat.ofDenote⟩

/-- What a text says, if it is a configuration. -/
def ofText? (text : String) : Option Sayings :=
  (Toml.parse text.toList >>= Toml.readAs Codec.config.shape).toOption.map ofDenote

example : ofText? "[classification]\nparallel = false\n[records]\n" =
    some ⟨none, some false, none, none⟩ := by decide +kernel

/-- What is given in all: by a flag, and where no flag gives it, by a text. -/
def under (said : Sayings) (flags : InspectFlags) : Sayings where
  failurePolicy := if flags.failFast then some .failFast else said.failurePolicy
  parallel := if flags.noParallel then some false else said.parallel
  marker := flags.marker.or said.marker
  format := flags.format.or said.format

/-- The settings that hold if a marker that is none is left out. -/
def settings (given : Sayings) : InspectSettings where
  format := given.format.getD .terminal
  marker := given.marker.filter Marker.isValid
  failurePolicy := given.failurePolicy.getD .collectAll
  parallel := given.parallel.getD true

end Sayings

/-- A configuration holds what a text says, with the default for every key that is missing and without a
marker that is none. -/
structure Config.Holds (c : Config) (said : Sayings) : Prop where
  failurePolicy : c.failurePolicy = said.failurePolicy.getD .collectAll
  parallel : c.parallel = said.parallel.getD true
  marker : c.marker = said.marker.filter Marker.isValid
  format : c.defaultFormat = said.format.getD .terminal

/-- The lines about a marker that a text gives: a warning if it is none. -/
def Config.markerLog : Option String → Logged
  | none => []
  | some m =>
    if Marker.isValid m then []
    else [⟨.warn, .discovery, "Ignoring invalid record marker " ++ Text.quoted m⟩]

namespace Config

theorem ofDenote_failurePolicy (d : Codec.config.shape.Denote) :
    (Codec.config.ofDenote d).failurePolicy = (Sayings.ofDenote d).failurePolicy.getD .collectAll := by
  obtain ⟨_ | ⟨_ | _, _⟩, _⟩ := d <;> rfl

theorem ofDenote_parallel (d : Codec.config.shape.Denote) :
    (Codec.config.ofDenote d).parallel = (Sayings.ofDenote d).parallel.getD true := by
  obtain ⟨_ | ⟨_, _ | _, _⟩, _⟩ := d <;> rfl

theorem ofDenote_marker (d : Codec.config.shape.Denote) :
    (Codec.config.ofDenote d).marker = (Sayings.ofDenote d).marker := by
  obtain ⟨_, _ | ⟨_ | _, _⟩, _⟩ := d <;> rfl

theorem ofDenote_defaultFormat (d : Codec.config.shape.Denote) :
    (Codec.config.ofDenote d).defaultFormat = (Sayings.ofDenote d).format.getD .terminal := by
  obtain ⟨_, _, _ | ⟨_ | _, _⟩, _⟩ := d <;> rfl

/-- Dropping a marker that is none touches no other setting. -/
theorem dropInvalidMarker_keeps (c : Config) :
    (dropInvalidMarker c).1.failurePolicy = c.failurePolicy ∧
      (dropInvalidMarker c).1.parallel = c.parallel ∧
      (dropInvalidMarker c).1.defaultFormat = c.defaultFormat := by
  rw [dropInvalidMarker]
  split
  · exact ⟨rfl, rfl, rfl⟩
  · split <;> exact ⟨rfl, rfl, rfl⟩

theorem dropInvalidMarker_marker (c : Config) :
    (dropInvalidMarker c).1.marker = c.marker.filter Marker.isValid ∧
      (dropInvalidMarker c).2 = markerLog c.marker := by
  rw [dropInvalidMarker]
  cases h : c.marker with
  | none => exact ⟨h, rfl⟩
  | some m =>
      by_cases hm : Marker.isValid m
      · simp [markerLog, hm, h, Option.filter_some_pos]
      · simp [markerLog, hm, marker, Option.filter_some_neg]

/-- A text that is accepted says something, and the configuration holds it. -/
theorem exists_holds_of_parse {text : String} {c : Config} {log : Logged} (h : parse text = .ok (c, log)) :
    ∃ said, Sayings.ofText? text = some said ∧ c.Holds said ∧ log = markerLog said.marker := by
  rw [parse, ofToml] at h
  rw [Sayings.ofText?]
  cases hread : Toml.parse text.toList >>= Toml.readAs Codec.config.shape with
  | error fault =>
      simp only [hread] at h
      cases h
  | ok d =>
      simp only [hread] at h
      obtain ⟨hpolicy, hparallel, hformat⟩ := dropInvalidMarker_keeps (Codec.config.ofDenote d)
      obtain ⟨hmarker, hlog⟩ := dropInvalidMarker_marker (Codec.config.ofDenote d)
      have hdropped : dropInvalidMarker (Codec.config.ofDenote d) = (c, log) := Except.ok.inj h
      rw [hdropped] at hpolicy hparallel hformat hmarker hlog
      refine ⟨Sayings.ofDenote d, rfl, ⟨?_, ?_, ?_, ?_⟩, ?_⟩
      · exact hpolicy.trans (ofDenote_failurePolicy d)
      · exact hparallel.trans (ofDenote_parallel d)
      · rw [← ofDenote_marker d]
        exact hmarker
      · exact hformat.trans (ofDenote_defaultFormat d)
      · rw [← ofDenote_marker d]
        exact hlog

end Config

namespace InspectSettings

/-- No flag gives a marker that is none. -/
def MarkerAllowed (flags : InspectFlags) : Prop := ∀ m, flags.marker = some m → Marker.isValid m

variable {flags : InspectFlags} {c : Config} {said : Sayings}

theorem merge_eq (h : MarkerAllowed flags) (hc : c.Holds said) :
    merge flags c = (said.under flags).settings := by
  have hmarker : (flags.marker <|> c.marker) = (flags.marker.or said.marker).filter Marker.isValid := by
    cases hm : flags.marker with
    | none => exact hc.marker
    | some m =>
        have hkept : (some m).filter Marker.isValid = some m := Option.filter_some_pos (h m hm)
        exact hkept.symm
  rw [merge, Sayings.settings, hmarker, hc.failurePolicy, hc.parallel, hc.format]
  congr 1
  · cases hf : flags.format <;> simp [Sayings.under, hf]
  · cases hf : flags.failFast <;> simp [Sayings.under, hf]
  · cases hf : flags.noParallel <;> simp [Sayings.under, hf]

/-- Without a marker to refuse, the settings are a function of what is given in all. -/
theorem resolve_of_allowed (h : MarkerAllowed flags) (hc : c.Holds said) :
    resolve flags c = .ok (said.under flags).settings := by
  rw [← merge_eq h hc, resolve]
  cases hm : flags.marker with
  | none => rfl
  | some m => exact if_pos (h m hm)

theorem resolve_of_not_allowed (h : ¬MarkerAllowed flags) (c : Config) :
    ∃ m, flags.marker = some m ∧ ¬Marker.isValid m ∧ resolve flags c = .error (invalidMarker m) := by
  rw [MarkerAllowed, Classical.not_forall] at h
  obtain ⟨m, hnot⟩ := h
  obtain ⟨hm, hvalid⟩ := Classical.not_imp.mp hnot
  refine ⟨m, hm, hvalid, ?_⟩
  rw [resolve, hm]
  exact if_neg hvalid

/-- Settings follow flags and what a text says, each setting by its own rule. -/
structure Follow (flags : InspectFlags) (said : Sayings) (s : InspectSettings) : Prop where
  marker_valid : ∀ m, s.marker = some m → Marker.isValid m
  marker_flag : ∀ m, flags.marker = some m → s.marker = some m
  marker_text : flags.marker = none → ∀ m, s.marker = some m ↔ said.marker = some m ∧ Marker.isValid m
  format : s.format = (flags.format.or said.format).getD .terminal
  failFast : s.failurePolicy = .failFast ↔ flags.failFast ∨ said.failurePolicy = some .failFast
  parallel : s.parallel ↔ ¬flags.noParallel ∧ said.parallel ≠ some false

theorem settings_follow (h : MarkerAllowed flags) (said : Sayings) :
    (said.under flags).settings.Follow flags said where
  marker_valid m hm := (Option.filter_eq_some_iff.mp hm).2
  marker_flag m hm := by
    simp [Sayings.settings, Sayings.under, hm, h m hm]
  marker_text hnone m := by
    simp [Sayings.settings, Sayings.under, hnone, Option.filter_eq_some_iff]
  format := rfl
  failFast := by
    cases hf : flags.failFast
    · cases hs : said.failurePolicy <;> simp [Sayings.settings, Sayings.under, hf, hs]
    · simp [Sayings.settings, Sayings.under, hf]
  parallel := by
    cases hf : flags.noParallel
    · cases hs : said.parallel <;> simp [Sayings.settings, Sayings.under, hf, hs]
    · simp [Sayings.settings, Sayings.under, hf]

/-- One setting is given by a flag beside a text without its key, or by the key of a text without the flag;
all else is the same. -/
inductive GivenEitherWay : InspectFlags × Sayings → InspectFlags × Sayings → Prop
  | marker (flags : InspectFlags) (said : Sayings) (m : String) :
      GivenEitherWay ({ flags with marker := some m }, { said with marker := none })
        ({ flags with marker := none }, { said with marker := some m })
  | format (flags : InspectFlags) (said : Sayings) (f : OutputFormat) :
      GivenEitherWay ({ flags with format := some f }, { said with format := none })
        ({ flags with format := none }, { said with format := some f })
  | failFast (flags : InspectFlags) (said : Sayings) :
      GivenEitherWay ({ flags with failFast := true }, { said with failurePolicy := none })
        ({ flags with failFast := false }, { said with failurePolicy := some .failFast })
  | sequential (flags : InspectFlags) (said : Sayings) :
      GivenEitherWay ({ flags with noParallel := true }, { said with parallel := none })
        ({ flags with noParallel := false }, { said with parallel := some false })

theorem GivenEitherWay.under_eq {byFlag byText : InspectFlags × Sayings}
    (h : GivenEitherWay byFlag byText) : byFlag.2.under byFlag.1 = byText.2.under byText.1 := by
  cases h <;> simp [Sayings.under]

theorem GivenEitherWay.allowed {byFlag byText : InspectFlags × Sayings} (h : GivenEitherWay byFlag byText)
    (hallowed : MarkerAllowed byFlag.1) : MarkerAllowed byText.1 := by
  cases h with
  | marker flags said m =>
      intro n hn
      cases hn
  | format flags said f => exact hallowed
  | failFast flags said => exact hallowed
  | sequential flags said => exact hallowed

/-- Flags come before the text, and the text before the defaults. An accepted text is held with its
defaults, and a marker of it that is none is dropped with one warning; settings are refused exactly if a
flag gives a marker that is none, and otherwise each follows the flags and the text by its own rule. So it
makes no difference whether a setting is given by its flag or by its key. -/
theorem flags_before_text {text : String} {c : Config} {log : Logged}
    (h : Config.parse text = .ok (c, log)) :
    ∃ said, Sayings.ofText? text = some said ∧ c.Holds said ∧ log = Config.markerLog said.marker ∧
      (∀ flags,
        ((∃ message, resolve flags c = .error message) ↔
          ∃ m, flags.marker = some m ∧ ¬Marker.isValid m) ∧
        ∀ s, resolve flags c = .ok s → s.Follow flags said) ∧
      ∀ text' c' log' said', Config.parse text' = .ok (c', log') → Sayings.ofText? text' = some said' →
        ∀ flags flags', GivenEitherWay (flags, said) (flags', said') → MarkerAllowed flags →
          ∃ s, resolve flags c = .ok s ∧ resolve flags' c' = .ok s := by
  obtain ⟨said, hsaid, hholds, hlog⟩ := Config.exists_holds_of_parse h
  refine ⟨said, hsaid, hholds, hlog, fun flags => ⟨⟨?_, ?_⟩, ?_⟩, ?_⟩
  · rintro ⟨message, hrefused⟩
    by_cases hallowed : MarkerAllowed flags
    · rw [resolve_of_allowed hallowed hholds] at hrefused
      cases hrefused
    · obtain ⟨m, hm, hvalid, -⟩ := resolve_of_not_allowed hallowed c
      exact ⟨m, hm, hvalid⟩
  · rintro ⟨m, hm, hvalid⟩
    obtain ⟨n, -, -, hrefused⟩ := resolve_of_not_allowed (fun hallowed => hvalid (hallowed m hm)) c
    exact ⟨_, hrefused⟩
  · intro s hs
    by_cases hallowed : MarkerAllowed flags
    · rw [resolve_of_allowed hallowed hholds] at hs
      cases hs
      exact settings_follow hallowed said
    · obtain ⟨m, -, -, hrefused⟩ := resolve_of_not_allowed hallowed c
      rw [hrefused] at hs
      cases hs
  · intro text' c' log' said' h' hsaid' flags flags' heither hallowed
    obtain ⟨read, hread, hholds', -⟩ := Config.exists_holds_of_parse h'
    obtain rfl := Option.some.inj (hread.symm.trans hsaid')
    have hsame : said.under flags = read.under flags' := heither.under_eq
    refine ⟨(said.under flags).settings, resolve_of_allowed hallowed hholds, ?_⟩
    rw [hsame]
    exact resolve_of_allowed (heither.allowed hallowed) hholds'

/-- A text with a marker that is none, beside a policy. -/
def oddMarkerText : String :=
  "[classification]\nfailure_policy = \"fail-fast\"\n[records]\nmarker = \"a::b\"\n"

theorem odd_marker_is_dropped :
    ∃ c log said, Config.parse oddMarkerText = .ok (c, log) ∧
      said = ⟨some .failFast, none, some "a::b", none⟩ ∧ c.Holds said ∧
      log = [⟨.warn, .discovery, "Ignoring invalid record marker \"a::b\""⟩] ∧
      ∀ flags s, resolve flags c = .ok s → s.Follow flags said := by
  have hparse : Config.parse oddMarkerText =
      .ok (⟨some ⟨.failFast, true⟩, some ⟨none⟩, none⟩,
        [⟨.warn, .discovery, "Ignoring invalid record marker \"a::b\""⟩]) := by
    decide +kernel
  have hread : Sayings.ofText? oddMarkerText = some ⟨some .failFast, none, some "a::b", none⟩ := by
    decide +kernel
  obtain ⟨said, hsaid, hholds, -, hflags, -⟩ := flags_before_text hparse
  obtain rfl := Option.some.inj (hread.symm.trans hsaid)
  exact ⟨_, _, _, hparse, rfl, hholds, rfl, fun flags s hs => (hflags flags).2 s hs⟩

end InspectSettings

end Nullability
