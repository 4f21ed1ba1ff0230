import Mathlib.Data.List.Forall2
import Mathlib.Data.List.TakeWhile
import Dealias.CommandLine
import Dealias.Proofs.Encoding

/-!
# Choices written as arguments

Whoever calls the program writes choices down as arguments: a value behind an equals sign, a switch
by one of its names, the root as it is.  They can come in any order, and what has its standard value
can be left out (`Written`).  Reading the arguments gives those choices back, whatever the values
look like, unless a run should say both more and less (`parse_of_written`).

The reading goes from left to right.  A root that was read last is still pending, so what a reading
amounts to is told when that is looked at (`Reading.Holds`); each argument adds its setting to those
that were read before (`Writes.take`), and so do all of them, one after the other
(`takeAll_of_writes`).
-/

namespace Dealias

namespace CommandLine

/-- What can be chosen. -/
inductive Setting
  | root | marker | call | extension | format | dryRun | atomic | verbose | quiet
  deriving DecidableEq, Repr

/-- An argument writes a setting of some choices down. -/
inductive Writes (o : Options) : Setting → List UInt8 → Prop
  | root : Writes o .root o.root.bytes
  | marker : Writes o .marker (Text.bytes ("--alias=" ++ o.marker))
  | call : Writes o .call (Text.bytes ("--call=" ++ o.call))
  | extension : Writes o .extension (Text.bytes ("--ext=" ++ o.extension))
  | text (h : o.format = .text) : Writes o .format (Text.bytes "--format=text")
  | json (h : o.format = .json) : Writes o .format (Text.bytes "--format=json")
  | dryRun (h : o.dryRun = true) : Writes o .dryRun (Text.bytes "--dry-run")
  | atomic (h : o.atomic = true) : Writes o .atomic (Text.bytes "--atomic")
  | verbose (h : o.verbose = true) : Writes o .verbose (Text.bytes "--verbose")
  | verboseShort (h : o.verbose = true) : Writes o .verbose (Text.bytes "-v")
  | quiet (h : o.quiet = true) : Writes o .quiet (Text.bytes "--quiet")
  | quietShort (h : o.quiet = true) : Writes o .quiet (Text.bytes "-q")

/-- A setting has its standard value. -/
def IsStandard (o : Options) : Setting → Prop
  | .root => o.root = ({} : Options).root
  | .marker => o.marker = ({} : Options).marker
  | .call => o.call = ({} : Options).call
  | .extension => o.extension = ({} : Options).extension
  | .format => o.format = ({} : Options).format
  | .dryRun => o.dryRun = false
  | .atomic => o.atomic = false
  | .verbose => o.verbose = false
  | .quiet => o.quiet = false

/-- Arguments write choices down, for some of the settings in some order: none is written twice, and
those that are not written have their standard value. -/
def Written (o : Options) (arguments : List (List UInt8)) : Prop :=
  ∃ settings : List Setting, settings.Nodup ∧ List.Forall₂ (Writes o) settings arguments ∧
    ∀ s, s ∉ settings → IsStandard o s

variable {o : Options} {done settings : List Setting} {s : Setting} {g next : Given} {r : Reading}
  {argument value : List UInt8} {arguments : List (List UInt8)}

/-! ## What was given -/

/-- What was given when some settings were written. -/
def Given.of (o : Options) (done : List Setting) : Given where
  root := if .root ∈ done then some o.root else none
  marker := if .marker ∈ done then some o.marker else none
  call := if .call ∈ done then some o.call else none
  extension := if .extension ∈ done then some o.extension else none
  format := if .format ∈ done then some o.format else none
  dryRun := .dryRun ∈ done
  atomic := .atomic ∈ done
  verbose := .verbose ∈ done
  quiet := .quiet ∈ done

/-- A text is taken as a value from its bytes. -/
theorem textValue_bytes (text : String) : textValue (Text.bytes text) = .ok text := by
  simp [textValue, Text.ofBytes?_bytes]

theorem formatValue_text : formatValue (Text.bytes "text") = .ok .text := by decide

theorem formatValue_json : formatValue (Text.bytes "json") = .ok .json := by decide

/-- A value is the chosen one, whether it is written or left out as the standard one. -/
theorem getD_ite_mem {α : Type} {chosen standard : α} (hleft : s ∉ done → chosen = standard) :
    (if s ∈ done then some chosen else none).getD standard = chosen := by
  by_cases hs : s ∈ done
  · simp [hs]
  · simp [hs, hleft hs]

/-- A switch is found on exactly if it was written. -/
theorem decide_mem_eq {on : Bool} (hwritten : s ∈ done → on = true)
    (hleft : s ∉ done → on = false) : decide (s ∈ done) = on := by
  by_cases hs : s ∈ done
  · simp [hs, hwritten hs]
  · simp [hs, hleft hs]

/-- **Choices with nothing but standard values left out are what was given.** -/
theorem options_of (hon : ∀ s ∈ done, ∃ argument, Writes o s argument)
    (hstandard : ∀ s, s ∉ done → IsStandard o s) : (Given.of o done).options = o := by
  have hdryRun : decide (.dryRun ∈ done) = o.dryRun := by
    refine decide_mem_eq (fun hs => ?_) (hstandard .dryRun)
    obtain ⟨argument, hwrites⟩ := hon .dryRun hs
    cases hwrites
    assumption
  have hatomic : decide (.atomic ∈ done) = o.atomic := by
    refine decide_mem_eq (fun hs => ?_) (hstandard .atomic)
    obtain ⟨argument, hwrites⟩ := hon .atomic hs
    cases hwrites
    assumption
  have hverbose : decide (.verbose ∈ done) = o.verbose := by
    refine decide_mem_eq (fun hs => ?_) (hstandard .verbose)
    obtain ⟨argument, hwrites⟩ := hon .verbose hs
    cases hwrites <;> assumption
  have hquiet : decide (.quiet ∈ done) = o.quiet := by
    refine decide_mem_eq (fun hs => ?_) (hstandard .quiet)
    obtain ⟨argument, hwrites⟩ := hon .quiet hs
    cases hwrites <;> assumption
  simp only [Given.options, Given.of, hdryRun, hatomic, hverbose, hquiet,
    getD_ite_mem (hstandard .root), getD_ite_mem (hstandard .marker),
    getD_ite_mem (hstandard .call), getD_ite_mem (hstandard .extension),
    getD_ite_mem (hstandard .format)]

/-! ## Taking up an argument -/

/-- A reading amounts to what was given, once its pending value is looked at. -/
def Reading.Holds (r : Reading) (g : Given) : Prop :=
  r.settle = .ok ⟨g, .none, g.root.isSome, false⟩

namespace Reading

/-- A reading with nothing pending amounts to what it has. -/
theorem holds_of_given (g : Given) : Holds ⟨g, .none, g.root.isSome, false⟩ g := rfl

/-- A reading that amounts to something waits for no value. -/
theorem Holds.not_wanted (h : r.Holds g) (slot : Slot) : r.pending ≠ .wanted slot := by
  intro hpending
  simp [Holds, settle, hpending] at h

/-- Looking at the pending value changes nothing else. -/
theorem Holds.rest_eq (h : r.Holds g) : r.rooted = g.root.isSome ∧ r.plain = false := by
  unfold Holds settle at h
  split at h
  · cases h
    exact ⟨rfl, rfl⟩
  · cases h
  · rename_i slot value _
    cases hset : r.given.set slot value with
    | error refusal => simp [hset, Except.map] at h
    | ok next =>
        simp only [hset, Except.map, Except.ok.injEq, mk.injEq] at h
        exact ⟨h.2.2.1, h.2.2.2⟩

/-- What stands behind two dashes is read as the long name of an option. -/
theorem Holds.take_long {body : List UInt8} (h : r.Holds g) (hbody : body ≠ []) :
    r.take (dash :: dash :: body) = r.takeLong body := by
  obtain ⟨b, rest, rfl⟩ := List.exists_cons_of_ne_nil hbody
  simp [take, h.rest_eq.2]

/-- What stands behind one dash is read as letters. -/
theorem Holds.take_short (h : r.Holds g) {b : UInt8} (hb : b ≠ dash) :
    r.take [dash, b] = r.takeShort (Text.pieces [b]) := by
  simp [take, h.rest_eq.2, hb]

/-- What does not start like an option names the root. -/
theorem Holds.take_plain (h : r.Holds g) (hdash : argument.head? ≠ some dash) :
    r.take argument = r.takeRoot argument := by
  have hplain : r.takePlain argument = r.takeRoot argument := by
    unfold takePlain
    split
    · exact absurd ‹_› (h.not_wanted _)
    · rfl
  rw [← hplain]
  cases argument with
  | nil => simp [take, h.rest_eq.2]
  | cons a rest =>
      have hfirst : a ≠ dash := by simpa using hdash
      cases rest with
      | nil => simp [take, h.rest_eq.2]
      | cons b body => cases body <;> simp [take, h.rest_eq.2, hfirst]

/-- No name of an option is empty or holds an equals sign, and no two are the same. -/
theorem longWords_find? : ∀ entry ∈ longWords, Text.bytes entry.1 ≠ [] ∧
    (Text.bytes entry.1).all (fun b => b ≠ equalsSign) = true ∧
    longWords.find? (fun other => Text.bytes other.1 = Text.bytes entry.1) = some entry := by
  decide

/-- No two options have the same letter. -/
theorem shortWords_find? : ∀ entry ∈ shortWords,
    shortWords.find? (fun other => other.1 = entry.1) = some entry := by
  decide

/-- An option is known by what stands in front of the equals sign. -/
theorem takeLong_attached {name : String} {word : Word} (hname : (name, word) ∈ longWords) :
    r.takeLong (Text.bytes name ++ equalsSign :: value) = r.takeAttached value word := by
  obtain ⟨-, hall, hfind⟩ := longWords_find? _ hname
  rw [List.all_eq_true] at hall
  unfold takeLong
  rw [List.takeWhile_append_of_pos hall, List.dropWhile_append_of_pos hall]
  simp [hfind]

/-- An option without an equals sign is known by its whole name. -/
theorem takeLong_alone {name : String} {word : Word} (hname : (name, word) ∈ longWords) :
    r.takeLong (Text.bytes name) = r.takeWord word := by
  obtain ⟨-, hall, hfind⟩ := longWords_find? _ hname
  rw [List.all_eq_true] at hall
  unfold takeLong
  rw [List.takeWhile_eq_self_iff.2 hall, List.dropWhile_eq_nil_iff.2 hall]
  simp [hfind]

/-- A value behind an equals sign is given at once. -/
theorem Holds.takeAttached {slot : Slot} (h : r.Holds g) (hset : g.set slot value = .ok next)
    (hroot : next.root = g.root) :
    ∃ after, r.takeAttached value (.value slot) = .ok after ∧ after.Holds next := by
  refine ⟨⟨next, .none, g.root.isSome, false⟩, ?_, ?_⟩
  · unfold Holds at h
    simp [Reading.takeAttached, h, hset, bind, Except.bind, pure, Except.pure, Except.mapError]
  · rw [← hroot]
    exact holds_of_given next

/-- A switch leaves the root as it was given. -/
theorem root_of_turnOn {switch : Switch} (h : g.turnOn switch = .ok next) :
    next.root = g.root := by
  cases switch <;>
  · simp only [Given.turnOn] at h
    split at h
    · cases h
    · cases h
      rfl

/-- A switch is turned on at once. -/
theorem Holds.takeWord {switch : Switch} (h : r.Holds g) (hturn : g.turnOn switch = .ok next) :
    ∃ after, r.takeWord (.switch switch) = .ok after ∧ after.Holds next := by
  refine ⟨⟨next, .none, g.root.isSome, false⟩, ?_, ?_⟩
  · unfold Holds at h
    simp [Reading.takeWord, turnOn, h, hturn, bind, Except.bind, pure, Except.pure,
      Except.mapError]
  · rw [← root_of_turnOn hturn]
    exact holds_of_given next

/-- The root is pending until the next argument, or the end. -/
theorem Holds.takeRoot (h : r.Holds g) (hset : g.set .root argument = .ok next)
    (hroot : next.root.isSome = true) (hnone : g.root = none) :
    ∃ after, r.takeRoot argument = .ok after ∧ after.Holds next := by
  refine ⟨⟨g, .held .root argument, true, false⟩, ?_, ?_⟩
  · have hrooted : r.rooted = false := by simp [h.rest_eq.1, hnone]
    unfold Holds at h
    simp [Reading.takeRoot, hrooted, h, Except.map, Except.mapError]
  · simp [Holds, settle, hset, Except.map, hroot]

end Reading

/-! ## Written arguments -/

/-- The bytes of an option with its value. -/
theorem bytes_option (name text : String) :
    Text.bytes ("--" ++ name ++ "=" ++ text) =
      Reading.dash :: Reading.dash :: (Text.bytes name ++ Reading.equalsSign :: Text.bytes text) := by
  simp only [Text.bytes_append, List.append_assoc]
  rfl

namespace Reading.Holds

/-- An argument with a long name, an equals sign and a value gives the value. -/
theorem take_option {name : String} {slot : Slot} (h : r.Holds g)
    (hname : (name, .value slot) ∈ longWords) (text : String)
    (hset : g.set slot (Text.bytes text) = .ok next) (hroot : next.root = g.root) :
    ∃ after, r.take (Text.bytes ("--" ++ name ++ "=" ++ text)) = .ok after ∧ after.Holds next := by
  rw [bytes_option, h.take_long (by simp), takeLong_attached hname]
  exact h.takeAttached hset hroot

/-- An argument with the long name of a switch turns it on. -/
theorem take_switch {name : String} {switch : Switch} (h : r.Holds g)
    (hname : (name, .switch switch) ∈ longWords) (hturn : g.turnOn switch = .ok next) :
    ∃ after, r.take (Text.bytes ("--" ++ name)) = .ok after ∧ after.Holds next := by
  have hbytes : Text.bytes ("--" ++ name) = dash :: dash :: Text.bytes name := by
    rw [Text.bytes_append]
    rfl
  rw [hbytes, h.take_long (longWords_find? _ hname).1, takeLong_alone hname]
  exact h.takeWord hturn

/-- An argument with the letter of a switch turns it on. -/
theorem take_letter {b : UInt8} {c : Char} {switch : Switch} (h : r.Holds g) (hb : b ≠ dash)
    (hletter : Text.pieces [b] = [.char c]) (hname : (c, .switch switch) ∈ shortWords)
    (hturn : g.turnOn switch = .ok next) :
    ∃ after, r.take [dash, b] = .ok after ∧ after.Holds next := by
  obtain ⟨after, htake, hafter⟩ := h.takeWord hturn
  refine ⟨after, ?_, hafter⟩
  rw [h.take_short hb, hletter]
  simp [takeShort, shortWords_find? _ hname, htake, bind, Except.bind]

end Reading.Holds

/-- **An argument that writes a setting adds it to what was given.** -/
theorem Writes.take (h : Writes o s argument) (hholds : r.Holds (Given.of o done)) (hs : s ∉ done)
    (hroot : o.root.bytes ≠ []) (hdash : o.root.bytes.head? ≠ some Reading.dash) :
    ∃ after, r.take argument = .ok after ∧ after.Holds (Given.of o (s :: done)) := by
  have hmarker : ("alias", Word.value .marker) ∈ longWords := by decide
  have hcall : ("call", Word.value .call) ∈ longWords := by decide
  have hextension : ("ext", Word.value .extension) ∈ longWords := by decide
  have hformat : ("format", Word.value .format) ∈ longWords := by decide
  have hdryRun : ("dry-run", Word.switch .dryRun) ∈ longWords := by decide
  have hatomic : ("atomic", Word.switch .atomic) ∈ longWords := by decide
  have hverbose : ("verbose", Word.switch .verbose) ∈ longWords := by decide
  have hquiet : ("quiet", Word.switch .quiet) ∈ longWords := by decide
  cases h with
  | root =>
      rw [hholds.take_plain hdash]
      refine hholds.takeRoot ?_ ?_ ?_ <;> simp [Given.of, Given.set, Given.has, hs, hroot]
  | marker =>
      refine hholds.take_option hmarker o.marker ?_ ?_
      · simp [Given.of, Given.set, Given.has, hs, textValue_bytes, Except.map]
      · simp [Given.of]
  | call =>
      refine hholds.take_option hcall o.call ?_ ?_
      · simp [Given.of, Given.set, Given.has, hs, textValue_bytes, Except.map]
      · simp [Given.of]
  | extension =>
      refine hholds.take_option hextension o.extension ?_ ?_
      · simp [Given.of, Given.set, Given.has, hs, textValue_bytes, Except.map]
      · simp [Given.of]
  | text h =>
      refine hholds.take_option hformat "text" ?_ ?_
      · simp [Given.of, Given.set, Given.has, hs, formatValue_text, Except.map, h]
      · simp [Given.of]
  | json h =>
      refine hholds.take_option hformat "json" ?_ ?_
      · simp [Given.of, Given.set, Given.has, hs, formatValue_json, Except.map, h]
      · simp [Given.of]
  | dryRun => exact hholds.take_switch hdryRun (by simp [Given.of, Given.turnOn, hs])
  | atomic => exact hholds.take_switch hatomic (by simp [Given.of, Given.turnOn, hs])
  | verbose => exact hholds.take_switch hverbose (by simp [Given.of, Given.turnOn, hs])
  | quiet => exact hholds.take_switch hquiet (by simp [Given.of, Given.turnOn, hs])
  | verboseShort =>
      have hname : ('v', Word.switch .verbose) ∈ shortWords := by decide
      exact hholds.take_letter (by decide) rfl hname (by simp [Given.of, Given.turnOn, hs])
  | quietShort =>
      have hname : ('q', Word.switch .quiet) ∈ shortWords := by decide
      exact hholds.take_letter (by decide) rfl hname (by simp [Given.of, Given.turnOn, hs])

/-- **Arguments that write settings add them all**, whatever was pending before. -/
theorem takeAll_of_writes (h : List.Forall₂ (Writes o) settings arguments)
    (hholds : r.Holds (Given.of o done)) (hnodup : settings.Nodup)
    (hfresh : ∀ s ∈ settings, s ∉ done) (hroot : o.root.bytes ≠ [])
    (hdash : o.root.bytes.head? ≠ some Reading.dash) :
    ∃ after, r.takeAll arguments = .ok after ∧
      after.Holds (Given.of o (settings.reverse ++ done)) := by
  induction h generalizing r done with
  | nil => exact ⟨r, rfl, hholds⟩
  | @cons s argument settings arguments hwrites _ ih =>
      obtain ⟨hs, hrest⟩ := List.nodup_cons.1 hnodup
      obtain ⟨middle, htake, hmiddle⟩ :=
        hwrites.take hholds (hfresh s List.mem_cons_self) hroot hdash
      have hlater : ∀ t ∈ settings, t ∉ s :: done := by
        intro t ht hmem
        rcases List.mem_cons.1 hmem with rfl | hdone
        · exact hs ht
        · exact hfresh t (List.mem_cons_of_mem _ ht) hdone
      obtain ⟨after, hall, hafter⟩ := ih hmiddle hrest hlater
      refine ⟨after, ?_, ?_⟩
      · simp [Reading.takeAll, htake, hall, bind, Except.bind]
      · rw [List.reverse_cons, List.append_assoc]
        exact hafter

/-- **Choices that are written down are read back**, in whatever order they come, with standard
values given or left out, and whatever the values look like.  They are refused for a conflict only
if a run should say both more and less. -/
theorem parse_of_written (hroot : o.root.bytes ≠ [])
    (hdash : o.root.bytes.head? ≠ some Reading.dash) (h : Written o arguments) :
    parse arguments =
      if o.verbose = true ∧ o.quiet = true then .error (.refused .conflict) else .ok o := by
  obtain ⟨settings, hnodup, hwrites, hstandard⟩ := h
  have hstart : Reading.Holds {} (Given.of o []) := rfl
  obtain ⟨after, hall, hafter⟩ := takeAll_of_writes hwrites hstart hnodup (by simp) hroot hdash
  have hon : ∀ s ∈ settings, ∃ argument, Writes o s argument :=
    ((List.forall₂_and_left settings arguments).1
      (hwrites.imp fun _ argument hargument => ⟨⟨argument, hargument⟩, hargument⟩)).1
  have hoptions : (Given.of o (settings.reverse ++ [])).options = o :=
    options_of (by simpa using hon) (by simpa using hstandard)
  have hverbose := congrArg Options.verbose hoptions
  have hquiet := congrArg Options.quiet hoptions
  simp only [Given.options] at hverbose hquiet
  unfold Reading.Holds at hafter
  simp only [parse, hall, hafter, bind, Except.bind, Except.mapError, hverbose, hquiet, hoptions]
  split <;> rfl

/-- Choices with values that look like options. -/
def disguised : Options where
  root := .ofText "a b/="
  marker := "--call=x"
  call := "-v"
  extension := ""
  dryRun := true
  format := .json
  quiet := true

/-- They are read back in an order of their own; with both switches the arguments conflict. -/
theorem parse_of_written_disguised :
    parse [Text.bytes "-q", Text.bytes "--format=json", Text.bytes "a b/=", Text.bytes "--ext=",
        Text.bytes "--alias=--call=x", Text.bytes "--dry-run", Text.bytes "--call=-v"] =
      .ok disguised ∧
    parse [Text.bytes "-q", Text.bytes "dist", Text.bytes "--verbose"] =
      .error (.refused .conflict) := by
  constructor
  · refine parse_of_written (o := disguised) (by decide) (by decide)
      ⟨[.quiet, .format, .root, .extension, .marker, .dryRun, .call], by decide, ?_, ?_⟩
    · exact .cons (.quietShort rfl) <| .cons (.json rfl) <| .cons .root <| .cons .extension <|
        .cons .marker <| .cons (.dryRun rfl) <| .cons .call .nil
    · intro s hs
      cases s <;> simp [IsStandard, disguised] at hs ⊢
  · refine parse_of_written (o := { verbose := true, quiet := true }) (by decide) (by decide)
      ⟨[.quiet, .root, .verbose], by decide, ?_, ?_⟩
    · exact .cons (.quietShort rfl) <| .cons .root <| .cons (.verbose rfl) .nil
    · intro s hs
      cases s <;> simp [IsStandard] at hs ⊢

end CommandLine

end Dealias
