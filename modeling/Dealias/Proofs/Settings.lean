import Dealias.Config
import Dealias.Proofs.Trimming

/-!
# Accepted settings

An extension may be written with white space around it and without its dot.  What counts is its
core, which is the extension without that white space.

Choices amount to settings exactly if the core names an extension and there is a pattern with the
given parts.  The extension is judged first, so it is the one that is told where both are bad; and
because a core that names an extension always gives a suffix, the suffix itself is never refused.
The suffix of accepted settings is in a normal form: white space around the extension makes no
difference, and the suffix, taken as an extension, gives the same settings again
(`Options.config_judged_by_core`).
-/

namespace Dealias

/-! ## Patterns -/

namespace Alias

variable {a : Alias} {call marker : String} {e : ConfigError}

/-- What a refused pattern has against it is told with its literal. -/
theorem exists_flaw_of_ofParts (h : ofParts call marker = .error e) :
    ∃ flaw, e = .invalidPattern (call ++ marker) flaw := by
  unfold ofParts at h
  split at h
  · exact ⟨_, (Except.error.inj h).symm⟩
  split at h
  · exact ⟨_, (Except.error.inj h).symm⟩
  split at h
  · exact ⟨_, (Except.error.inj h).symm⟩
  split at h
  · cases h
  · exact ⟨_, (Except.error.inj h).symm⟩

/-- An accepted pattern has the parts that it was made of. -/
theorem ofParts_eq_ok_iff :
    ofParts call marker = .ok a ↔ a.call = call ∧ a.marker = marker := by
  constructor
  · intro h
    unfold ofParts at h
    split at h
    · cases h
    split at h
    · cases h
    split at h
    · cases h
    split at h
    · cases h
      exact ⟨rfl, rfl⟩
    · cases h
  · intro h
    obtain ⟨rfl, rfl⟩ := h
    simp [ofParts, a.call_ne, a.marker_ne, a.marker_dot, a.fits]

/-- There is a pattern with the given parts. -/
def HasParts (call marker : String) : Prop :=
  ∃ a : Alias, a.call = call ∧ a.marker = marker

/-- A pattern can be made of two parts that are not empty, if the marker does not start with a dot
and both together are not too large. -/
theorem hasParts_iff :
    HasParts call marker ↔ call ≠ "" ∧ marker ≠ "" ∧ marker.toList.head? ≠ some '.' ∧
      compiledSize (call ++ marker) ≤ sizeLimit := by
  constructor
  · intro h
    obtain ⟨a, rfl, rfl⟩ := h
    exact ⟨a.call_ne, a.marker_ne, a.marker_dot, a.fits⟩
  · intro h
    obtain ⟨hcall, hmarker, hdot, hfits⟩ := h
    exact ⟨⟨call, marker, hcall, hmarker, hdot, hfits⟩, rfl, rfl⟩

end Alias

/-! ## Settings -/

namespace Options

open Text (Bare Blank IsCore)

variable {o : Options} {config : Config} {core other cs : List Char} {extension text : String}

/-- A core that names an extension: it is more than a dot. -/
def Named (core : List Char) : Prop :=
  core ≠ [] ∧ core ≠ ['.']

theorem not_named_iff : ¬ Named core ↔ core = [] ∨ core = ['.'] := by
  unfold Named
  by_cases hempty : core = [] <;> simp [hempty]

/-- A core with a dot in front, unless it has one. -/
def dotted (core : List Char) : List Char :=
  if core.head? = some '.' then core else '.' :: core

/-- The normal form of an extension: a dot and at least one character behind it, with no white
space at either end. -/
structure IsNormal (cs : List Char) : Prop where
  dot : cs.head? = some '.'
  more : 2 ≤ cs.length
  bare : Bare cs

/-- A bare core that names an extension has a normal form. -/
theorem isNormal_dotted (hbare : Bare core) (hnamed : Named core) : IsNormal (dotted core) := by
  unfold dotted
  cases core with
  | nil => exact absurd rfl hnamed.1
  | cons c rest =>
      by_cases hdot : c = '.'
      · subst hdot
        have hrest : rest ≠ [] := by
          intro hnil
          exact hnamed.2 (by rw [hnil])
        have hlength : 0 < rest.length := List.length_pos_iff.2 hrest
        refine ⟨rfl, ?_, hbare⟩
        simp only [List.head?_cons, if_true, List.length_cons]
        omega
      · have hhead : ¬ (c :: rest).head? = some '.' := by
          simpa using hdot
        rw [if_neg hhead]
        refine ⟨rfl, by simp, ?_, ?_⟩
        · intro a ha
          cases ha
          decide
        · intro a ha
          exact hbare.last a (by simpa [List.getLast?_cons_cons] using ha)

/-- A normal form names an extension. -/
theorem IsNormal.named (h : IsNormal cs) : Named cs := by
  have hmore := h.more
  constructor
  · intro hnil
    simp [hnil] at hmore
  · intro hdot
    simp [hdot] at hmore

theorem IsNormal.dotted_eq (h : IsNormal cs) : dotted cs = cs :=
  if_pos h.dot

/-- What is told of an extension that is not named: the extension as it was written. -/
def unnamed (extension : String) : UsageError :=
  ⟨"--ext", extension, "must name a file extension such as .js"⟩

/-- An extension whose core names none is refused in its own words. -/
theorem suffixText_of_not_named (h : IsCore core extension.toList) (hcore : ¬ Named core) :
    suffixText extension = .error (unnamed extension) := by
  simp only [suffixText, Text.trim_eq_iff.2 h]
  rw [if_pos (not_named_iff.1 hcore)]
  rfl

/-- An extension whose core names one becomes the normal form of the core. -/
theorem suffixText_of_named (h : IsCore core extension.toList) (hcore : Named core) :
    suffixText extension = .ok (String.ofList (dotted core)) := by
  have hsomething : ¬ (core = [] ∨ core = ['.']) := by
    intro hnothing
    exact not_named_iff.2 hnothing hcore
  simp only [suffixText, Text.trim_eq_iff.2 h]
  rw [if_neg hsomething, dotted]
  split <;> rfl

/-- A named core makes a suffix. -/
theorem exists_suffix (hbare : Bare core) (hcore : Named core) :
    ∃ suffix, Suffix.ofText (String.ofList (dotted core)) = .ok suffix ∧
      suffix.text.toList = dotted core := by
  have hne : String.ofList (dotted core) ≠ "" := by
    intro hempty
    have hmore := (isNormal_dotted hbare hcore).more
    rw [← String.toList_ofList (l := dotted core), hempty] at hmore
    cases hmore
  exact ⟨⟨_, hne⟩, dif_neg hne, String.toList_ofList⟩

/-- Whatever becomes of an extension makes a suffix, so none is refused at that point. -/
theorem exists_suffix_of_suffixText (h : IsCore core extension.toList)
    (htext : suffixText extension = .ok text) : ∃ suffix, Suffix.ofText text = .ok suffix := by
  by_cases hcore : Named core
  · rw [suffixText_of_named h hcore] at htext
    cases htext
    obtain ⟨suffix, hsuffix, -⟩ := exists_suffix h.bare hcore
    exact ⟨suffix, hsuffix⟩
  · rw [suffixText_of_not_named h hcore] at htext
    cases htext

/-- All that can become of choices whose extension has a given core. -/
inductive Outcome (o : Options) (core : List Char) : Except Failure Config → Prop
  | unnamed (hcore : ¬ Named core) : Outcome o core (.error (.usage (unnamed o.extension)))
  | flawed {flaw : PatternFlaw} (hcore : Named core)
      (hparts : ¬ Alias.HasParts o.call o.marker) :
      Outcome o core (.error (.config (.invalidPattern (o.call ++ o.marker) flaw)))
  | accepted {config : Config} (hcore : Named core) (hparts : Alias.HasParts o.call o.marker)
      (hsuffix : config.suffix.text.toList = dotted core) : Outcome o core (.ok config)

/-- **What becomes of choices is told by the core of their extension**, and then by the parts of
their pattern. -/
theorem config_outcome (h : IsCore core o.extension.toList) : Outcome o core o.config := by
  by_cases hcore : Named core
  · obtain ⟨suffix, hsuffix, htext⟩ := exists_suffix h.bare hcore
    cases hparts : Alias.ofParts o.call o.marker with
    | error e =>
        obtain ⟨flaw, rfl⟩ := Alias.exists_flaw_of_ofParts hparts
        have hconfig : o.config = .error (.config (.invalidPattern (o.call ++ o.marker) flaw)) := by
          simp [Options.config, suffixText_of_named h hcore, hparts, bind, Except.bind,
            Except.mapError]
        rw [hconfig]
        apply Outcome.flawed hcore
        intro hpattern
        obtain ⟨a, ha⟩ := hpattern
        rw [Alias.ofParts_eq_ok_iff.2 ha] at hparts
        cases hparts
    | ok a =>
        simp only [Options.config, suffixText_of_named h hcore, hparts, hsuffix, bind, Except.bind,
          pure, Except.pure, Except.mapError]
        exact .accepted hcore ⟨a, Alias.ofParts_eq_ok_iff.1 hparts⟩ htext
  · have hconfig : o.config = .error (.usage (unnamed o.extension)) := by
      simp [Options.config, suffixText_of_not_named h hcore, bind, Except.bind, Except.mapError]
    rw [hconfig]
    exact .unnamed hcore

/-- Choices amount to settings exactly if the core names an extension and there is a pattern. -/
theorem exists_config_iff (h : IsCore core o.extension.toList) :
    (∃ config, o.config = .ok config) ↔ Named core ∧ Alias.HasParts o.call o.marker := by
  have houtcome := config_outcome h
  generalize o.config = result at houtcome
  cases houtcome with
  | unnamed hcore => simp [hcore]
  | flawed hcore hparts => simp [hparts]
  | accepted hcore hparts _ => simp [hcore, hparts]

/-- Choices whose extension is not named are refused for that, whatever their pattern is. -/
theorem config_of_not_named (h : IsCore core o.extension.toList) (hcore : ¬ Named core) :
    o.config = .error (.usage (unnamed o.extension)) := by
  have houtcome := config_outcome h
  generalize o.config = result at houtcome ⊢
  cases houtcome with
  | unnamed _ => rfl
  | flawed hnamed _ => exact absurd hnamed hcore
  | accepted hnamed _ _ => exact absurd hnamed hcore

/-- Behind a named extension only the pattern is refused. -/
theorem exists_flaw_of_config {failure : Failure} (h : IsCore core o.extension.toList)
    (hcore : Named core) (hconfig : o.config = .error failure) :
    ∃ flaw, failure = .config (.invalidPattern (o.call ++ o.marker) flaw) := by
  have houtcome := config_outcome h
  rw [hconfig] at houtcome
  cases houtcome with
  | unnamed hunnamed => exact absurd hcore hunnamed
  | flawed _ _ => exact ⟨_, rfl⟩

/-- Choices that are accepted have a named extension, and its normal form is the suffix. -/
theorem suffix_of_config (h : IsCore core o.extension.toList) (hconfig : o.config = .ok config) :
    Named core ∧ config.suffix.text.toList = dotted core := by
  have houtcome := config_outcome h
  rw [hconfig] at houtcome
  cases houtcome with
  | accepted hcore _ hsuffix => exact ⟨hcore, hsuffix⟩

/-- Extensions that differ in no more than white space and the dot give the same settings. -/
theorem config_congr (h : IsCore core o.extension.toList) (hcore : Named core)
    (hother : IsCore other extension.toList) (hnamed : Named other)
    (hdotted : dotted other = dotted core) :
    { o with extension := extension }.config = o.config := by
  have hsame : suffixText extension = suffixText o.extension := by
    rw [suffixText_of_named h hcore, suffixText_of_named hother hnamed, hdotted]
  simp only [Options.config, hsame]

/-- What the core of their extension tells of some choices. -/
structure Judged (o : Options) (core : List Char) : Prop where
  /-- They amount to settings exactly if the core is more than a dot and there is a pattern. -/
  accepted : (∃ config, o.config = .ok config) ↔
    (core ≠ [] ∧ core ≠ ['.']) ∧ o.call ≠ "" ∧ o.marker ≠ "" ∧
      o.marker.toList.head? ≠ some '.' ∧
      Alias.compiledSize (o.call ++ o.marker) ≤ Alias.sizeLimit
  /-- An extension whose core is no more than a dot is refused, whatever the pattern is, and told as
  it was written. -/
  unnamed : core = [] ∨ core = ['.'] →
    o.config = .error (.usage ⟨"--ext", o.extension, "must name a file extension such as .js"⟩)
  /-- Every other refusal is about the pattern. -/
  flawed : core ≠ [] → core ≠ ['.'] → ∀ failure, o.config = .error failure →
    ∃ flaw, failure = .config (.invalidPattern (o.call ++ o.marker) flaw)
  /-- The suffix that is made of an extension can always be used. -/
  usable : ∀ text, suffixText o.extension = .ok text → ∃ suffix, Suffix.ofText text = .ok suffix
  /-- So no refusal of a suffix is ever told. -/
  unconfigured : ∀ reason, o.config ≠ .error (.config (.invalidConfiguration reason))
  /-- The suffix is the core, with a dot in front unless it has one, and it is in normal form. -/
  normal : ∀ config, o.config = .ok config →
    config.suffix.text.toList = dotted core ∧ IsNormal config.suffix.text.toList
  /-- White space around the extension makes no difference. -/
  padded : ∀ config, o.config = .ok config → ∀ before after : String,
    Blank before.toList → Blank after.toList →
      { o with extension := before ++ o.extension ++ after }.config = .ok config
  /-- The suffix, taken as an extension, gives the same settings. -/
  again : ∀ config, o.config = .ok config →
    { o with extension := config.suffix.text }.config = .ok config

/-- **Choices are judged by the core of their extension**, and then by their pattern. -/
theorem config_judged_by_core (o : Options) :
    ∃ core, IsCore core o.extension.toList ∧ Judged o core := by
  have h : IsCore (Text.trim o.extension.toList) o.extension.toList := Text.trim_eq_iff.1 rfl
  generalize Text.trim o.extension.toList = core at h
  refine ⟨core, h, ?accepted, ?unnamed, ?flawed, ?usable, ?unconfigured, ?normal, ?padded, ?again⟩
  case accepted =>
    rw [exists_config_iff h, Alias.hasParts_iff]
    rfl
  case unnamed =>
    intro hnothing
    exact config_of_not_named h (not_named_iff.2 hnothing)
  case flawed =>
    intro hempty hdot failure hconfig
    exact exists_flaw_of_config h ⟨hempty, hdot⟩ hconfig
  case usable =>
    intro text htext
    exact exists_suffix_of_suffixText h htext
  case unconfigured =>
    intro reason hconfig
    by_cases hcore : Named core
    · obtain ⟨flaw, hflaw⟩ := exists_flaw_of_config h hcore hconfig
      cases hflaw
    · rw [config_of_not_named h hcore] at hconfig
      cases hconfig
  case normal =>
    intro config hconfig
    obtain ⟨hcore, hsuffix⟩ := suffix_of_config h hconfig
    rw [hsuffix]
    exact ⟨rfl, isNormal_dotted h.bare hcore⟩
  case padded =>
    intro config hconfig before after hbefore hafter
    obtain ⟨hcore, -⟩ := suffix_of_config h hconfig
    have hpadded : IsCore core (before ++ o.extension ++ after).toList := by
      rw [String.toList_append, String.toList_append]
      exact h.pad hbefore hafter
    rw [config_congr h hcore hpadded hcore rfl, hconfig]
  case again =>
    intro config hconfig
    obtain ⟨hcore, hsuffix⟩ := suffix_of_config h hconfig
    have hnormal := isNormal_dotted h.bare hcore
    have hagain : IsCore (dotted core) config.suffix.text.toList := by
      rw [hsuffix]
      exact hnormal.bare.isCore
    rw [config_congr h hcore hagain hnormal.named hnormal.dotted_eq, hconfig]

/-- An ideographic space and a no-break space around an extension without a dot in front. -/
example : suffixText "\u3000d.ts\u00a0" = .ok ".d.ts" := rfl

end Options

end Dealias
