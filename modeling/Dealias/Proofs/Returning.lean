import Mathlib.Data.List.PeriodicityLemma
import Dealias.Proofs.Rewriting

/-!
# References that come back

Rewriting puts the way to the root in the place of a marker, and together with the call in front of
it, or with the text around it, this can be a reference again.  Whether it can is decided by the
pattern and the depth alone: the literal, laid over a resolved reference in any place but its own,
agrees with it as far as both go, and takes in a letter of the way (`Search.Returns`).  If so, some
text holds a reference after it was rewritten, and if not, none does
(`Alias.rewritten_settled_iff_not_returns`).

The text for such an overlap is made of one reference and of the letters of the literal that stand
out on either side.  Those in front must not bring an occurrence before that reference: the literal
would then repeat itself, and would have the first letter of the marker where it has the dot
(`clearBefore_of_agree`).
-/

namespace Dealias

namespace Search

variable {α : Type} {literal front back tail lead rest more : List α}

/-! ## Periods -/

/-- A word that begins like some letters with the word itself behind them repeats these letters. -/
theorem hasPeriod_of_prefix_append {word shift : List α} (h : word <+: shift ++ word) :
    word.HasPeriod shift.length := by
  rcases Nat.le_total word.length shift.length with hshort | hlong
  · exact List.hasPeriod_of_length_le word _ hshort
  · have hshift : shift <+: word := List.prefix_of_prefix_length_le ⟨word, rfl⟩ h hlong
    rw [List.HasPeriod, ← List.prefix_iff_eq_take.1 hshift]
    exact h

/-- Two periods of a word together are a period of it. -/
theorem hasPeriod_add {word : List α} {p q : Nat} (hp : word.HasPeriod p) (hq : word.HasPeriod q) :
    word.HasPeriod (p + q) := by
  rw [List.hasPeriod_iff_getElem?] at *
  intro i hi
  rw [hp i (by omega), hq (i + p) (by omega), Nat.add_assoc]

/-- Words with one period that begin alike agree as far as the shorter goes. -/
theorem prefix_of_hasPeriod {word other : List α} {p : Nat} (hpos : 0 < p)
    (hword : word.HasPeriod p) (hother : other.HasPeriod p) (hle : word.length ≤ other.length)
    (hstart : word.take p = other.take p) : word <+: other := by
  rw [List.prefix_iff_getElem?]
  intro i hi
  have hmod : i % p < p := Nat.mod_lt i hpos
  calc
    other[i]? = other[i % p]? := (hother.getElem?_mod p i other (by omega)).symm
    _ = word[i % p]? := by
        rw [← List.getElem?_take_of_lt hmod, ← hstart, List.getElem?_take_of_lt hmod]
    _ = word[i]? := hword.getElem?_mod p i word hi
    _ = some word[i] := List.getElem?_eq_getElem hi

/-- A word that begins a second time among its own first letters, when these stand in front of it,
repeats them.  From its second beginning on it is its own beginning. -/
theorem hasPeriod_of_occurs_before {x z : List α} (hliteral : literal = lead ++ rest)
    (h : lead ++ (literal ++ more) = x ++ (literal ++ z)) (hlt : x.length < lead.length) :
    literal.HasPeriod lead.length := by
  obtain ⟨y, rfl⟩ : x <+: lead :=
    List.prefix_of_prefix_length_le ⟨literal ++ z, h.symm⟩ ⟨literal ++ more, rfl⟩ (Nat.le_of_lt hlt)
  have hpos : 0 < y.length := by simpa using hlt
  rw [List.append_assoc] at h
  have hoccurs : literal ++ z = y ++ literal ++ more := by
    simpa using (List.append_cancel_left h).symm
  have hshift : literal <+: y ++ literal :=
    List.prefix_of_prefix_length_le ⟨z, hoccurs⟩ ⟨more, rfl⟩ (by simp)
  have hy : literal.HasPeriod y.length := hasPeriod_of_prefix_append hshift
  have hinner : y ++ rest <+: literal := by
    have hbegin : y <+: literal :=
      List.prefix_of_prefix_length_le ⟨literal, rfl⟩ hshift (by simp [hliteral]; omega)
    have hsplit : literal = x ++ (y ++ rest) ++ [] := by simp [hliteral]
    have hrest : (y ++ rest).HasPeriod y.length := List.HasPeriod.factor (hsplit ▸ hy)
    refine prefix_of_hasPeriod hpos hrest hy (by simp [hliteral]) ?_
    rw [List.take_left, ← List.prefix_iff_eq_take.1 hbegin]
  have hx : literal.HasPeriod x.length := by
    refine hasPeriod_of_prefix_append ?_
    obtain ⟨last, hlast⟩ := hinner
    refine ⟨last, ?_⟩
    calc
      literal ++ last = x ++ (y ++ rest ++ last) := by simp [hliteral]
      _ = x ++ literal := by rw [hlast]
  rw [List.length_append]
  exact hasPeriod_add hx hy

/-! ## Overlaps -/

/-- Two words agree as far as both go. -/
def Agree (xs ys : List α) : Prop :=
  xs <+: ys ∨ ys <+: xs

/-- Two beginnings of one word agree. -/
theorem Agree.of_append_eq {xs ys zs ws : List α} (h : xs ++ zs = ys ++ ws) : Agree xs ys :=
  List.prefix_or_prefix_of_prefix ⟨zs, h⟩ ⟨ws, rfl⟩

/-- What goes further than a word that it agrees with is that word with less than itself. -/
theorem Agree.exists_append {xs ys : List α} (h : Agree xs ys) (hxs : xs ≠ []) (hys : ys ≠ []) :
    ∃ more, more.length < xs.length ∧ xs <+: ys ++ more := by
  rcases h with hshort | ⟨more, rfl⟩
  · exact ⟨[], List.length_pos_iff.2 hxs, by simpa using hshort⟩
  · have hpos := List.length_pos_iff.2 hys
    exact ⟨more, by simp only [List.length_append]; omega, List.prefix_rfl⟩

/-- A literal with the tail in the place of its end can be that literal again.  Laid over what it
became, and beginning before it or behind its beginning, the literal agrees with it as far as both
go, and reaches into the tail. -/
def Returns (front back tail : List α) : Prop :=
  (∃ i < back.length, 0 < i ∧ Agree ((front ++ back).drop i) (front ++ tail)) ∨
    ∃ i < (front ++ tail).length, 0 < i ∧ Agree (front ++ back) ((front ++ tail).drop i)

instance [DecidableEq α] (front back tail : List α) : Decidable (Returns front back tail) :=
  inferInstanceAs (Decidable
    ((∃ i < back.length, 0 < i ∧ ((front ++ back).drop i <+: front ++ tail ∨
        front ++ tail <+: (front ++ back).drop i)) ∨
      ∃ i < (front ++ tail).length, 0 < i ∧ (front ++ back <+: (front ++ tail).drop i ∨
        (front ++ tail).drop i <+: front ++ back)))

/-- Behind the front, two words that agree have the same letter, if they go so far. -/
theorem Agree.getElem?_eq (h : Agree rest (front ++ tail)) (hreach : front.length < rest.length)
    (htail : tail ≠ []) : rest[front.length]? = tail[0]? := by
  have hpos := List.length_pos_iff.2 htail
  have hword : (front ++ tail)[front.length]? = tail[0]? := by
    rw [List.getElem?_append_right (Nat.le_refl _), Nat.sub_self]
  rw [← hword]
  rcases h with hshort | hlong
  · rw [List.prefix_iff_getElem?.1 hshort _ hreach, List.getElem?_eq_getElem hreach]
  · have hlt : front.length < (front ++ tail).length := by simpa using hpos
    rw [List.prefix_iff_getElem?.1 hlong _ hlt, List.getElem?_eq_getElem hlt]

/-- The letters that stand out in front bring no occurrence before the one behind them. -/
theorem clearBefore_of_agree (hother : back[0]? ≠ tail[0]?) (htail : tail ≠ [])
    (hliteral : front ++ back = lead ++ rest) (hreach : front.length < rest.length)
    (h : Agree rest (front ++ tail)) :
    ClearBefore (front ++ back) lead (front ++ back ++ more) := by
  intro x z hxz
  by_contra hlt
  have hperiod := hasPeriod_of_occurs_before hliteral hxz (Nat.lt_of_not_le hlt)
  have hlength := congrArg List.length hliteral
  simp only [List.length_append] at hlength
  have hrepeat := List.hasPeriod_iff_getElem?.1 hperiod front.length (by
    simp only [List.length_append]
    omega)
  refine hother ?_
  calc
    back[0]? = (front ++ back)[front.length]? := by
      rw [List.getElem?_append_right (Nat.le_refl _), Nat.sub_self]
    _ = (lead ++ rest)[front.length + lead.length]? := by rw [hrepeat, hliteral]
    _ = rest[front.length]? := by
      rw [List.getElem?_append_right (Nat.le_add_left ..), Nat.add_sub_cancel]
    _ = tail[0]? := h.getElem?_eq hreach htail

/-! ## Rewritten texts -/

/-- A text with one occurrence, and less than the literal behind it, is cut there only. -/
theorem cut_once (hclear : ClearBefore literal lead (literal ++ more))
    (hmore : more.length < literal.length) :
    Cut literal (lead ++ (literal ++ more)) [lead, more] :=
  .atFirst hclear (.whole fun h => Nat.not_lt.2 h.length_le hmore)

/-- **A literal that can come back does so in some text.** -/
theorem Returns.exists_cut (h : Returns front back tail) (hother : back[0]? ≠ tail[0]?)
    (hback : back ≠ []) (htail : tail ≠ []) :
    ∃ lead more, Cut (front ++ back) (lead ++ (front ++ back ++ more)) [lead, more] ∧
      front ++ back <:+: (front ++ tail).intercalate [lead, more] := by
  have hliteral : front ++ back ≠ [] := by simp [hback]
  have hword : front ++ tail ≠ [] := by simp [htail]
  rcases h with ⟨i, hlt, hpos, hagree⟩ | ⟨i, hlt, hpos, hagree⟩
  · have hsplit : front ++ back = (front ++ back).take i ++ (front ++ back).drop i :=
      (List.take_append_drop ..).symm
    have hreach : front.length < ((front ++ back).drop i).length := by
      simp only [List.length_drop, List.length_append]
      omega
    have hdrop : (front ++ back).drop i ≠ [] := List.length_pos_iff.1 (Nat.zero_lt_of_lt hreach)
    obtain ⟨more, hmore, last, hlast⟩ := hagree.exists_append hdrop hword
    refine ⟨(front ++ back).take i, more,
      cut_once (clearBefore_of_agree hother htail hsplit hreach hagree)
        (Nat.lt_of_lt_of_le hmore (by simp)), [], last, ?_⟩
    calc
      [] ++ (front ++ back) ++ last
          = (front ++ back).take i ++ ((front ++ back).drop i ++ last) := by
            rw [← List.append_assoc ((front ++ back).take i), List.take_append_drop,
              List.nil_append]
      _ = (front ++ tail).intercalate [(front ++ back).take i, more] := by
            rw [hlast]
            simp
  · have hdrop : (front ++ tail).drop i ≠ [] := by simpa using hlt
    obtain ⟨more, hmore, last, hlast⟩ := hagree.exists_append hliteral hdrop
    refine ⟨[], more, cut_once (fun _ _ _ => Nat.zero_le _) hmore, (front ++ tail).take i, last, ?_⟩
    rw [List.intercalate_cons_cons, List.intercalate_singleton, List.append_assoc, hlast,
      ← List.append_assoc, List.take_append_drop, List.nil_append]

/-- A dot behind the first letter of what is replaced can be enough. -/
example : Returns ['a'] ['a', '.'] ['.', '/'] := by decide

/-- An occurrence that begins in what replaces the literal, and not where the literal began. -/
theorem returns_of_within {x lead rest y : List α} (hword : front ++ tail = lead ++ rest)
    (hlead : lead ≠ []) (hrest : rest ≠ []) (h : rest ++ x = front ++ back ++ y) :
    Returns front back tail := by
  have hpos := List.length_pos_iff.2 hlead
  have hrestpos := List.length_pos_iff.2 hrest
  refine .inr ⟨lead.length, ?_, hpos, ?_⟩
  · rw [hword, List.length_append]
    omega
  · rw [hword, List.drop_left]
    exact .of_append_eq h.symm

/-- An occurrence that begins before what replaces the literal, and reaches into the tail. -/
theorem returns_of_before {x lead y : List α} (hlead : lead ≠ [])
    (hreach : lead.length < back.length)
    (h : lead ++ (front ++ tail ++ x) = front ++ back ++ y) : Returns front back tail := by
  have hpos := List.length_pos_iff.2 hlead
  obtain ⟨rest, hrest⟩ : lead <+: front ++ back :=
    List.prefix_of_prefix_length_le ⟨_, h⟩ ⟨y, rfl⟩ (by simp only [List.length_append]; omega)
  refine .inl ⟨lead.length, hreach, hpos, ?_⟩
  rw [← hrest, List.append_assoc lead] at h
  rw [← hrest, List.drop_left]
  exact .of_append_eq (List.append_cancel_left h).symm

/-- In its own place the literal has another letter than what replaces it. -/
theorem append_tail_ne_append_back {x y : List α} (hother : back[0]? ≠ tail[0]?) (hback : back ≠ [])
    (htail : tail ≠ []) : front ++ tail ++ x ≠ front ++ back ++ y := by
  intro hsame
  rw [List.append_assoc, List.append_assoc] at hsame
  have hletter := congrArg (·[0]?) (List.append_cancel_left hsame)
  simp only [List.getElem?_append_left (List.length_pos_iff.2 htail),
    List.getElem?_append_left (List.length_pos_iff.2 hback)] at hletter
  exact hother hletter.symm

/-- An occurrence that begins in the gap reaches into the tail, since one that ends before it would
have been the first. -/
theorem ClearBefore.reaches_tail {x z after later y : List α} (hz : z ≠ [])
    (hfirst : ClearBefore (front ++ back) (x ++ z) (front ++ back ++ after))
    (h : z ++ (front ++ tail ++ later) = front ++ back ++ y) : z.length < back.length := by
  by_contra hshort
  have hle : (front ++ back).length ≤ (z ++ front).length := by
    simp only [List.length_append]
    omega
  obtain ⟨u, hu⟩ : front ++ back <+: z ++ front :=
    List.prefix_of_prefix_length_le ⟨y, h.symm⟩ ⟨tail ++ later, by simp⟩ hle
  have hthere : x ++ z ++ (front ++ back ++ after) =
      x ++ (front ++ back ++ (u ++ (back ++ after))) := by
    calc
      x ++ z ++ (front ++ back ++ after) = x ++ ((z ++ front) ++ (back ++ after)) := by simp
      _ = x ++ (front ++ back ++ (u ++ (back ++ after))) := by rw [← hu]; simp
  have hbegin := hfirst x _ hthere
  have hpos := List.length_pos_iff.2 hz
  simp only [List.length_append] at hbegin
  omega

/-- **A literal that is there when its occurrences are replaced can come back.**  It begins in the
first gap, in what replaces the occurrence behind it, or further back. -/
theorem Cut.returns {text : List α} {gaps : List (List α)} (hcut : Cut (front ++ back) text gaps)
    (hother : back[0]? ≠ tail[0]?) (hback : back ≠ []) (htail : tail ≠ [])
    (h : front ++ back <:+: (front ++ tail).intercalate gaps) : Returns front back tail := by
  induction hcut with
  | whole habsent => exact absurd (by simpa using h) habsent
  | @atFirst before after gaps hfirst rest ih =>
      rw [List.intercalate_cons_of_ne_nil rest.gaps_ne_nil] at h
      generalize (front ++ tail).intercalate gaps = later at h ih
      obtain ⟨x, y, hxy⟩ := h
      rw [List.append_assoc, List.append_assoc before] at hxy
      rcases List.append_eq_append_iff.1 hxy with ⟨z, rfl, hgap⟩ | ⟨x, rfl, hword⟩
      · by_cases hempty : z = []
        · subst hempty
          exact absurd hgap.symm (append_tail_ne_append_back hother hback htail)
        · exact returns_of_before hempty (hfirst.reaches_tail hempty hgap.symm) hgap.symm
      · rcases List.append_eq_append_iff.1 hword with ⟨z, rfl, hlater⟩ | ⟨z, hz, hlater⟩
        · exact ih ⟨z, y, by simpa using hlater.symm⟩
        · by_cases hend : z = []
          · exact ih ⟨[], y, by simpa [hend] using hlater⟩
          · by_cases hstart : x = []
            · subst hstart
              rw [List.nil_append] at hz
              exact absurd (by rw [hz, hlater]) (append_tail_ne_append_back hother hback htail)
            · exact returns_of_within hz hstart hend hlater.symm

end Search

namespace Alias

open Search

variable {a : Alias} {depth : Depth}

/-- References of the pattern can come back at a depth. -/
def Returns (a : Alias) (depth : Depth) : Prop :=
  Search.Returns a.call.toList a.marker.toList depth.ascent

instance (a : Alias) (depth : Depth) : Decidable (a.Returns depth) :=
  inferInstanceAs (Decidable (Search.Returns ..))

/-- No marker begins as the way to the root does. -/
theorem marker_head_ne_ascent_head (a : Alias) (depth : Depth) :
    a.marker.toList[0]? ≠ depth.ascent[0]? := by
  obtain ⟨tail, hascent, -⟩ := depth.exists_ascent_eq
  simpa [hascent, List.head?_eq_getElem?] using a.marker_dot

theorem ascent_ne_nil (depth : Depth) : depth.ascent ≠ [] := by
  obtain ⟨tail, hascent, -⟩ := depth.exists_ascent_eq
  simp [hascent]

/-- References that can come back do so in some text. -/
theorem Returns.exists_mentions (h : a.Returns depth) :
    ∃ text new n, a.rewrite text depth = .rewritten new n ∧ a.Mentions new := by
  obtain ⟨lead, more, hcut, hinfix⟩ := Search.Returns.exists_cut h
    (a.marker_head_ne_ascent_head depth) a.marker_toList_ne_nil (ascent_ne_nil depth)
  have htext : Cut a.literal.toList
      (String.ofList (lead ++ (a.call.toList ++ a.marker.toList ++ more))).toList [lead, more] := by
    rw [literal_toList, String.toList_ofList]
    exact hcut
  refine ⟨_, _, _, rewrite_eq_of_cut htext, ?_⟩
  rw [Mentions, String.toList_ofList, literal_toList]
  exact hinfix

/-- A reference that is there after a text was rewritten shows that they can. -/
theorem returns_of_mentions {text new : String} {n : Nat}
    (hrewrite : a.rewrite text depth = .rewritten new n) (h : a.Mentions new) :
    a.Returns depth := by
  obtain ⟨-, -, gaps, hcut, -, rfl⟩ := rewrite_eq_rewritten hrewrite
  rw [Mentions, String.toList_ofList] at h
  rw [literal_toList] at h hcut
  exact hcut.returns (a.marker_head_ne_ascent_head depth) a.marker_toList_ne_nil
    (ascent_ne_nil depth) h

/-- **Texts are settled once they are rewritten, exactly if references of the pattern cannot come
back.**  Then what is rewritten holds no reference, and is left alone the next time. -/
theorem rewritten_settled_iff_not_returns (a : Alias) (depth : Depth) :
    (∀ text new n, a.rewrite text depth = .rewritten new n →
        ¬ a.Mentions new ∧ a.rewrite new depth = .unchanged) ↔ ¬ a.Returns depth := by
  constructor
  · intro hsettled hreturns
    obtain ⟨text, new, n, hrewrite, hmentions⟩ := hreturns.exists_mentions
    exact (hsettled text new n hrewrite).1 hmentions
  · intro hreturns text new n hrewrite
    have habsent : ¬ a.Mentions new := fun hmentions =>
      hreturns (returns_of_mentions hrewrite hmentions)
    exact ⟨habsent, rewrite_eq_unchanged_iff.2 habsent⟩

/-- A pattern without dots whose call is the separator. -/
def slashed : Alias :=
  ⟨"/", "~", by decide, by decide, by decide, by decide⟩

/-- A reference of this pattern is rewritten, and with the letter behind it is one again. -/
theorem slashed_rewritten_twice :
    ofParts "/" "~" = .ok slashed ∧
      slashed.rewrite "/~~" .root = .rewritten "/./~" 1 ∧ slashed.Mentions "/./~" ∧
      slashed.rewrite "/./~" .root = .rewritten "/././" 1 :=
  ⟨rfl, by decide, by decide, by decide⟩

end Alias

end Dealias
