import Dealias.Entry.Json
import Dealias.Proofs.Encoding
import Dealias.Proofs.ReadBack

/-!
# Written entries

An entry has a written form exactly if its path is a text.  Its readers take this form apart member
by member (`Entry.readMembers_path`, `Entry.readMembers_depth`), each piece of it by the reader that
undoes how the piece is written, and what they put together is the entry
(`Entry.json_reads_back`).  A depth by itself is read back as well (`Depth.ofJson_toJson`).
-/

namespace Dealias

open Json

variable {cs rest left : List Char} {text : String}

/-- **A depth is read back from its digits.** -/
theorem Depth.ofJson_toJson {d : Depth} (h : d.levels < wordLimit) :
    Depth.ofJson d.toJson = .ok d := by
  have hread : readNatural (decimal d.levels ++ []) = .ok (d.levels, []) :=
    readNatural_decimal h endsNumber_nil
  rw [List.append_nil] at hread
  simp only [ofJson, toJson, compact, String.toList_ofList, hread, bind, Except.bind, readEnd_nil,
    pure, Except.pure]

namespace Entry

/-! ## Members -/

variable {e : Entry} {m : Members} {isFirst : Bool} {n : Nat}

theorem readColon_cons (rest : List Char) : readColon (':' :: rest) = .ok rest := by
  simp only [readColon, skipBlank_cons (by decide : isBlank ':' = false)]

/-- The first key follows the opening bracket at once. -/
theorem readKey_first (key : String) (rest : List Char) :
    readKey true (quote key ++ rest) = .ok (some key, rest) := by
  rw [quote_append]
  simp [readKey, readKey.name, skipBlank_cons (by decide : isBlank '"' = false), readString_quoted,
    Except.map]

/-- Every other key follows a comma. -/
theorem readKey_next (key : String) (rest : List Char) :
    readKey false (',' :: (quote key ++ rest)) = .ok (some key, rest) := by
  rw [quote_append]
  simp [readKey, readKey.name, skipBlank_cons (by decide : isBlank ',' = false),
    skipBlank_cons (by decide : isBlank '"' = false), readString_quoted, Except.map]

theorem readKey_close (isFirst : Bool) (rest : List Char) :
    readKey isFirst ('\x7d' :: rest) = .ok (none, rest) := by
  simp [readKey, skipBlank_cons (by decide : isBlank '\x7d' = false)]

/-- Without another key the members are complete. -/
theorem readMembers_close (hkey : readKey isFirst cs = .ok (none, rest)) :
    readMembers m isFirst cs = .ok (m, rest) := by
  rw [readMembers]
  split <;> simp_all

/-- A path is read if there was none before. -/
theorem readMembers_path (hkey : readKey isFirst cs = .ok (some "path", left))
    (hpath : m.path = none) (hvalue : readColon left >>= readText = .ok (text, rest)) :
    readMembers m isFirst cs = readMembers { m with path := some text } false rest := by
  rw [readMembers]
  split <;> simp_all

/-- A depth is read if there was none before. -/
theorem readMembers_depth (hkey : readKey isFirst cs = .ok (some "depth", left))
    (hdepth : m.depth = none) (hvalue : readColon left >>= readNatural = .ok (n, rest)) :
    readMembers m isFirst cs = readMembers { m with depth := some n } false rest := by
  rw [readMembers]
  split <;> simp_all

/-! ## Entries -/

/-- The written form of an entry whose path is a text. -/
def written (path : String) (d : Depth) : String :=
  String.ofList (compact (.object [("path", .text path), ("depth", .natural d.levels)]))

theorem toList_written (path : String) (d : Depth) :
    (written path d).toList =
      '\x7b' :: (quote "path" ++ ':' :: (quote path ++
        ',' :: (quote "depth" ++ ':' :: (decimal d.levels ++ ['\x7d'])))) := by
  simp [written, compact, compactMembers]

/-- An entry is written exactly if its path is a text. -/
theorem toJson_eq_ok_iff :
    e.toJson = .ok text ↔ ∃ path, e.path = .ofText path ∧ text = written path e.depth := by
  cases hpath : e.path.text? with
  | none =>
      have hother := Path.text?_eq_none_iff.1 hpath
      simp [toJson, hpath, hother]
  | some path =>
      have hmade := Path.text?_eq_some_iff.1 hpath
      have hwritten : e.toJson = .ok (written path e.depth) := by
        simp only [toJson, hpath, written]
      constructor
      · intro h
        exact ⟨path, hmade, Except.ok.inj (h.symm.trans hwritten)⟩
      · rintro ⟨same, hsame, rfl⟩
        obtain rfl : path = same := Path.ofText_injective (hmade.symm.trans hsame)
        exact hwritten

/-- An entry has no written form exactly if its path is no text. -/
theorem toJson_fails_iff :
    (∃ problem, e.toJson = .error problem) ↔ ∀ text, e.path ≠ .ofText text := by
  rw [← Path.text?_eq_none_iff]
  unfold toJson
  cases e.path.text? <;> simp

/-- What is written of a path and a depth is read as the two. -/
theorem ofJson_written (path : String) {d : Depth} (h : d.levels < wordLimit) :
    ofJson (written path d) = .ok ⟨.ofText path, d⟩ := by
  have hpath : ∀ rest, readColon (':' :: (quote path ++ rest)) >>= readText = .ok (path, rest) := by
    intro rest
    rw [readColon_cons]
    exact readText_quote path rest
  have hdepth : readColon (':' :: (decimal d.levels ++ ['\x7d'])) >>= readNatural =
      .ok (d.levels, ['\x7d']) := by
    rw [readColon_cons]
    exact readNatural_decimal h (endsNumber_cons (by decide) [])
  have hmembers :=
    calc readMembers ⟨none, none⟩ true (quote "path" ++ ':' :: (quote path ++
          ',' :: (quote "depth" ++ ':' :: (decimal d.levels ++ ['\x7d']))))
        = readMembers ⟨some path, none⟩ false
            (',' :: (quote "depth" ++ ':' :: (decimal d.levels ++ ['\x7d']))) :=
          readMembers_path (readKey_first _ _) rfl (hpath _)
      _ = readMembers ⟨some path, some d.levels⟩ false ['\x7d'] :=
          readMembers_depth (readKey_next _ _) rfl hdepth
      _ = .ok (⟨some path, some d.levels⟩, []) := readMembers_close (readKey_close _ _)
  simp only [ofJson, toList_written, skipBlank_cons (by decide : isBlank '\x7b' = false), hmembers,
    Members.entry?, readEnd_nil, bind, Except.bind, pure, Except.pure]

/-- An entry is read back from its written form. -/
theorem ofJson_of_toJson (hdepth : e.depth.levels < wordLimit) (h : e.toJson = .ok text) :
    ofJson text = .ok e := by
  obtain ⟨path, hpath, rfl⟩ := toJson_eq_ok_iff.1 h
  rw [ofJson_written path hdepth, ← hpath]

/-- **An entry is read back from its JSON**, which there is exactly if its path is a text: what is
read is written the same again, and no other entry is written so. -/
theorem json_reads_back (e : Entry) (hdepth : e.depth.levels < wordLimit) :
    ((∃ problem, e.toJson = .error problem) ↔ ∀ text, e.path ≠ .ofText text) ∧
    ∀ text, e.toJson = .ok text →
      ofJson text = .ok e ∧
      (∀ read, ofJson text = .ok read → read.toJson = .ok text) ∧
      ∀ other : Entry, other.depth.levels < wordLimit → other.toJson = .ok text → other = e := by
  refine ⟨toJson_fails_iff, ?_⟩
  intro text htext
  have hback := ofJson_of_toJson hdepth htext
  refine ⟨hback, ?_, ?_⟩
  · intro read hread
    obtain rfl : e = read := Except.ok.inj (hback.symm.trans hread)
    exact htext
  · intro other hother hsame
    have hboth := (ofJson_of_toJson hother hsame).symm.trans hback
    exact Except.ok.inj hboth

/-- The greatest depth there is, and a path with characters of every kind that is escaped. -/
theorem json_reads_back_escaped :
    let e : Entry := ⟨.ofText "d/\"\\\n\u0001é😀", ⟨18446744073709551615⟩⟩
    let text := "\x7b\"path\":\"d/\\\"\\\\\\n\\u0001é😀\",\"depth\":18446744073709551615\x7d"
    e.depth.levels < wordLimit ∧ e.toJson = .ok text ∧ ofJson text = .ok e := by
  intro e text
  have hdepth : e.depth.levels < wordLimit := by decide
  have htext : e.toJson = .ok text := toJson_eq_ok_iff.2 ⟨_, rfl, by cbv⟩
  exact ⟨hdepth, htext, ((json_reads_back e hdepth).2 text htext).1⟩

end Entry

end Dealias
