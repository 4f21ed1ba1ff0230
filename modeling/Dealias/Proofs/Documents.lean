import Dealias.Json.Document
import Dealias.Proofs.ReadBack

/-!
# Documents read back

A value that is written over several lines is read back as the same value (`readDocument_pretty`):
its members in their order, each text with its characters and each number with its digits, however
deep they are nested.  Inside brackets this says that reading goes on behind what was written as if
the value had just been read (`ReadsBack`), so it is one induction over the value, with its items
and members (`readsBack_of_fits`).
-/

namespace Dealias.Json

variable {cs rest left gap : List Char} {c : Char} {v : Value} {within : List Frame} {key : String}
  {done : List Value} {members : List (String × Value)}

/-! ## Blanks -/

/-- Nothing but blanks. -/
def Blank (gap : List Char) : Prop :=
  ∀ c ∈ gap, isBlank c = true

/-- Blanks in front are skipped up to the first other character. -/
theorem skipBlank_append (hgap : Blank gap) (hc : isBlank c = false) (rest : List Char) :
    skipBlank (gap ++ c :: rest) = c :: rest := by
  rw [skipBlank, List.dropWhile_append_of_pos hgap]
  exact skipBlank_cons hc rest

theorem blank_nil : Blank [] := by
  simp [Blank]

/-- A line break with its indent is nothing but blanks. -/
theorem blank_newline (level : Nat) : Blank (newline level) := by
  intro c hc
  rcases List.mem_cons.1 hc with rfl | hc
  · rfl
  · rw [List.eq_of_mem_replicate hc]
    rfl

/-- A number ends at a blank, and where a comma or a bracket follows. -/
theorem endsNumber_append (hgap : Blank gap) (hc : c ∈ [',', ']', '\x7d']) (rest : List Char) :
    EndsNumber (gap ++ c :: rest) := by
  cases gap with
  | nil => exact endsNumber_cons hc rest
  | cons first gap =>
      intro d hd
      obtain rfl : first = d := by simpa using hd
      have hblank := hgap first List.mem_cons_self
      simp only [isBlank, Bool.or_eq_true, decide_eq_true_eq] at hblank
      rcases hblank with ((rfl | rfl) | rfl) | rfl <;> decide

/-! ## One piece -/

namespace Reading

variable {r s : Reading}

/-- A reading that can go on comes to what it goes on to. -/
theorem run_of_next (h : r.next = .ok s) : r.run = s.run := by
  have hopen : r.value? = none := by
    obtain ⟨stage, within, left⟩ := r
    cases stage with
    | value => rfl
    | key done => rfl
    | behind v =>
        cases within with
        | nil => cases h
        | cons frame within => rfl
  rw [run, hopen]
  dsimp only
  split
  · rename_i herror
    rw [h] at herror
    cases herror
  · rename_i hnext
    rw [h] at hnext
    cases hnext
    rfl

/-- A value without members is read in one piece. -/
theorem run_scalar (hgap : Blank gap) (hblank : isBlank c = false) (hlist : c ≠ '[')
    (hobject : c ≠ '\x7b') (hread : readScalar (c :: cs) = .ok (v, rest)) :
    run ⟨.value, within, gap ++ c :: cs⟩ = run ⟨.behind v, within, rest⟩ := by
  apply run_of_next
  unfold next
  dsimp only
  rw [skipBlank_append hgap hblank]
  unfold beginValue
  split
  · rename_i h
    exact absurd (List.cons.inj h).1 hlist
  · rename_i h
    exact absurd (List.cons.inj h).1 hobject
  · rw [hread]
    rfl

/-- Two brackets with nothing between them are the empty list. -/
theorem run_emptyList (hgap : Blank gap) :
    run ⟨.value, within, gap ++ '[' :: ']' :: rest⟩ = run ⟨.behind (.list []), within, rest⟩ := by
  apply run_of_next
  unfold next
  dsimp only
  rw [skipBlank_append hgap (by decide)]
  rfl

/-- Two braces with nothing between them are the empty object. -/
theorem run_emptyObject (hgap : Blank gap) :
    run ⟨.value, within, gap ++ '\x7b' :: '\x7d' :: rest⟩ =
      run ⟨.behind (.object []), within, rest⟩ := by
  apply run_of_next
  unfold next
  dsimp only
  rw [skipBlank_append hgap (by decide)]
  rfl

/-- A list is entered where it is not closed at once. -/
theorem run_openList (hgap : Blank gap) (hrest : (skipBlank rest).head? ≠ some ']') :
    run ⟨.value, within, gap ++ '[' :: rest⟩ = run ⟨.value, .list [] :: within, rest⟩ := by
  apply run_of_next
  unfold next
  dsimp only
  rw [skipBlank_append hgap (by decide), beginValue]
  split
  · rename_i h
    simp [h] at hrest
  · rfl

/-- An object is entered where it is not closed at once, and a key is expected. -/
theorem run_openObject (hgap : Blank gap) (hrest : (skipBlank rest).head? ≠ some '\x7d') :
    run ⟨.value, within, gap ++ '\x7b' :: rest⟩ = run ⟨.key [], within, rest⟩ := by
  apply run_of_next
  unfold next
  dsimp only
  rw [skipBlank_append hgap (by decide), beginValue]
  split
  · rename_i h
    simp [h] at hrest
  · rfl

/-- Behind a key and its colon the value of the member is expected. -/
theorem run_key (hgap : Blank gap) (key : String) :
    run ⟨.key members, within, gap ++ (quote key ++ ':' :: rest)⟩ =
      run ⟨.value, .object members key :: within, rest⟩ := by
  have hlabel : readLabel (key.toList.flatMap escape ++ '"' :: ':' :: rest) = .ok (key, rest) := by
    have hcolon : skipBlank (':' :: rest) = ':' :: rest := rfl
    simp [readLabel, readString_quoted, bind, Except.bind, hcolon]
  apply run_of_next
  unfold next
  dsimp only
  rw [quote_append, skipBlank_append hgap (by decide), beginMember, hlabel]
  rfl

/-- A comma behind an item lets the list go on with the next one. -/
theorem run_nextItem :
    run ⟨.behind v, .list done :: within, ',' :: rest⟩ =
      run ⟨.value, .list (v :: done) :: within, rest⟩ :=
  run_of_next rfl

/-- A comma behind the value of a member lets the object go on with the next key. -/
theorem run_nextMember :
    run ⟨.behind v, .object members key :: within, ',' :: rest⟩ =
      run ⟨.key ((key, v) :: members), within, rest⟩ :=
  run_of_next rfl

/-- A bracket that is closed is a value. -/
theorem run_close (hgap : Blank gap) (frame : Frame) :
    run ⟨.behind v, frame :: within, gap ++ frame.close :: rest⟩ =
      run ⟨.behind (frame.value v), within, rest⟩ := by
  apply run_of_next
  unfold next
  dsimp only
  cases frame with
  | list done =>
      rw [skipBlank_append hgap rfl]
      rfl
  | object done key =>
      rw [skipBlank_append hgap rfl]
      rfl

end Reading

/-! ## Values -/

/-- All numbers in a value fit into 64 bits. -/
inductive Fits : Value → Prop
  | bool (b : Bool) : Fits (.bool b)
  | natural {n : Nat} (h : n < wordLimit) : Fits (.natural n)
  | text (s : String) : Fits (.text s)
  | list {items : List Value} (h : ∀ v ∈ items, Fits v) : Fits (.list items)
  | object {members : List (String × Value)} (h : ∀ m ∈ members, Fits m.2) :
      Fits (.object members)

/-- A list that is not empty is written between brackets, with its items a level deeper. -/
theorem pretty_list (level : Nat) (v : Value) (items : List Value) :
    pretty level (.list (v :: items)) =
      '[' :: (prettyItems (level + 1) (v :: items) ++ (newline level ++ [']'])) := by
  rw [pretty]
  · simp
  · simp

/-- An object that is not empty is written between braces, with its members a level deeper. -/
theorem pretty_object (level : Nat) (m : String × Value) (members : List (String × Value)) :
    pretty level (.object (m :: members)) =
      '\x7b' :: (prettyMembers (level + 1) (m :: members) ++ (newline level ++ ['\x7d'])) := by
  rw [pretty]
  · simp
  · simp

/-- What is written for a value begins with no blank, and with no bracket that closes a list. -/
theorem exists_pretty_eq_cons (level : Nat) (v : Value) :
    ∃ c tail, pretty level v = c :: tail ∧ isBlank c = false ∧ c ≠ ']' := by
  cases v with
  | bool b => cases b <;> exact ⟨_, _, rfl, by decide, by decide⟩
  | natural n =>
      obtain ⟨d, digits, hdecimal, hdigit⟩ := exists_decimal_eq_cons n
      refine ⟨d, digits, by rw [pretty, hdecimal], isBlank_eq_false hdigit, ?_⟩
      rintro rfl
      cases hdigit
  | text s => exact ⟨_, _, by rw [pretty]; rfl, by decide, by decide⟩
  | list items =>
      cases items with
      | nil => exact ⟨_, _, by rw [pretty], by decide, by decide⟩
      | cons v items => exact ⟨_, _, pretty_list level v items, by decide, by decide⟩
  | object members =>
      cases members with
      | nil => exact ⟨_, _, by rw [pretty], by decide, by decide⟩
      | cons m members => exact ⟨_, _, pretty_object level m members, by decide, by decide⟩

/-- An item stands on a line of its own, with a comma if another one follows. -/
theorem prettyItems_cons (level : Nat) (v next : Value) (items : List Value) :
    prettyItems level (v :: next :: items) =
      newline level ++ (pretty level v ++ ',' :: prettyItems level (next :: items)) := by
  rw [prettyItems]
  · simp
  · simp

theorem prettyMembers_cons (level : Nat) (key : String) (v : Value) (next : String × Value)
    (members : List (String × Value)) :
    prettyMembers level ((key, v) :: next :: members) =
      newline level ++ (quote key ++ ':' :: ' ' ::
        (pretty level v ++ ',' :: prettyMembers level (next :: members))) := by
  rw [prettyMembers]
  · simp
  · simp

/-- The items of a list begin on a line of their own, with the first of them. -/
theorem exists_prettyItems_eq (level : Nat) (v : Value) (items : List Value) :
    ∃ c tail, prettyItems level (v :: items) = newline level ++ c :: tail ∧
      isBlank c = false ∧ c ≠ ']' := by
  obtain ⟨c, tail, hv, hc, hne⟩ := exists_pretty_eq_cons level v
  cases items with
  | nil => exact ⟨c, tail, by rw [prettyItems, hv], hc, hne⟩
  | cons next items =>
      exact ⟨c, tail ++ ',' :: prettyItems level (next :: items), by simp [prettyItems_cons, hv],
        hc, hne⟩

/-- The members of an object begin on a line of their own, with the quote of the first key. -/
theorem exists_prettyMembers_eq (level : Nat) (m : String × Value)
    (members : List (String × Value)) :
    ∃ tail, prettyMembers level (m :: members) = newline level ++ '"' :: tail := by
  obtain ⟨key, v⟩ := m
  cases members with
  | nil => exact ⟨_, by rw [prettyMembers, List.append_assoc, quote_append]⟩
  | cons next members => exact ⟨_, by rw [prettyMembers_cons, quote_append]⟩

/-- Behind what is written for the value, after blanks and at any level, reading goes on as if the
value had been read. -/
def ReadsBack (v : Value) : Prop :=
  ∀ level within gap rest, Blank gap → EndsNumber rest →
    Reading.run ⟨.value, within, gap ++ (pretty level v ++ rest)⟩ =
      Reading.run ⟨.behind v, within, rest⟩

theorem readsBack_bool (b : Bool) : ReadsBack (.bool b) := by
  intro level within gap rest hgap _
  have hword : readScalar (truth b ++ rest) = .ok (.bool b, rest) := by
    cases b <;> simp [truth, readScalar, readWord, Except.map]
  rw [pretty]
  cases b <;> exact Reading.run_scalar hgap (by decide) (by decide) (by decide) hword

/-- A number that fits into 64 bits is read back, if no digit follows. -/
theorem readsBack_natural {n : Nat} (hn : n < wordLimit) : ReadsBack (.natural n) := by
  intro level within gap rest hgap hrest
  obtain ⟨d, digits, hdecimal, hdigit⟩ := exists_decimal_eq_cons n
  have hread := readNatural_decimal hn hrest
  have hother : ∀ c : Char, c.isDigit = false → d ≠ c := by
    rintro c hc rfl
    rw [hdigit] at hc
    cases hc
  have hscalar : readScalar (d :: (digits ++ rest)) = .ok (.natural n, rest) := by
    unfold readScalar
    split
    · rename_i h
      exact absurd (List.cons.inj h).1 (hother _ rfl)
    · rename_i h
      exact absurd (List.cons.inj h).1 (hother _ rfl)
    · rename_i h
      exact absurd (List.cons.inj h).1 (hother _ rfl)
    · rw [← List.cons_append, ← hdecimal, hread]
      rfl
  rw [pretty, hdecimal, List.cons_append]
  exact Reading.run_scalar hgap (isBlank_eq_false hdigit) (hother _ rfl) (hother _ rfl) hscalar

/-- A text is read back, with its escaped characters. -/
theorem readsBack_text (s : String) : ReadsBack (.text s) := by
  intro level within gap rest hgap _
  have hscalar : readScalar ('"' :: (s.toList.flatMap escape ++ '"' :: rest)) =
      .ok (.text s, rest) := by
    simp [readScalar, readString_quoted, Except.map]
  rw [pretty, quote_append]
  exact Reading.run_scalar hgap (by decide) (by decide) (by decide) hscalar

/-- The items of a list are read one after the other. -/
theorem run_prettyItems {items : List Value} (hitems : ∀ v ∈ items, ReadsBack v)
    (hne : items ≠ []) (level : Nat) (done : List Value) (hgap : Blank gap) (rest : List Char) :
    Reading.run ⟨.value, .list done :: within, prettyItems level items ++ (gap ++ ']' :: rest)⟩ =
      Reading.run ⟨.behind (.list (done.reverse ++ items)), within, rest⟩ := by
  induction items generalizing done with
  | nil => exact absurd rfl hne
  | cons v items ih =>
      obtain ⟨hv, hitems⟩ := List.forall_mem_cons.1 hitems
      have hnewline := blank_newline level
      cases items with
      | nil =>
          have hend : EndsNumber (gap ++ ']' :: rest) := endsNumber_append hgap (by decide) rest
          rw [prettyItems, List.append_assoc, hv level _ _ _ hnewline hend]
          have hvalue : (Frame.list done).value v = .list (done.reverse ++ [v]) := by
            simp [Frame.value]
          exact hvalue ▸ Reading.run_close hgap (.list done)
      | cons next items =>
          have hcomma : EndsNumber
              (',' :: (prettyItems level (next :: items) ++ (gap ++ ']' :: rest))) :=
            endsNumber_cons (by decide) _
          have hwritten : prettyItems level (v :: next :: items) ++ (gap ++ ']' :: rest) =
              newline level ++ (pretty level v ++
                ',' :: (prettyItems level (next :: items) ++ (gap ++ ']' :: rest))) := by
            simp [prettyItems_cons]
          rw [hwritten, hv level _ _ _ hnewline hcomma, Reading.run_nextItem,
            ih hitems (by simp)]
          simp

/-- The members of an object are read one after the other. -/
theorem run_prettyMembers {members : List (String × Value)}
    (hmembers : ∀ m ∈ members, ReadsBack m.2)
    (hne : members ≠ []) (level : Nat) (done : List (String × Value)) (hgap : Blank gap)
    (rest : List Char) :
    Reading.run ⟨.key done, within, prettyMembers level members ++ (gap ++ '\x7d' :: rest)⟩ =
      Reading.run ⟨.behind (.object (done.reverse ++ members)), within, rest⟩ := by
  induction members generalizing done with
  | nil => exact absurd rfl hne
  | cons m members ih =>
      obtain ⟨key, v⟩ := m
      obtain ⟨hv, hmembers⟩ := List.forall_mem_cons.1 hmembers
      have hnewline := blank_newline level
      have hspace : Blank [' '] := by simp [Blank, isBlank]
      cases members with
      | nil =>
          have hend : EndsNumber (gap ++ '\x7d' :: rest) := endsNumber_append hgap (by decide) rest
          have hwritten : prettyMembers level [(key, v)] ++ (gap ++ '\x7d' :: rest) =
              newline level ++ (quote key ++ ':' :: ([' '] ++ (pretty level v ++
                (gap ++ '\x7d' :: rest)))) := by
            rw [prettyMembers]
            simp
          rw [hwritten, Reading.run_key hnewline, hv level _ _ _ hspace hend]
          have hvalue : (Frame.object done key).value v = .object (done.reverse ++ [(key, v)]) := by
            simp [Frame.value]
          exact hvalue ▸ Reading.run_close hgap (.object done key)
      | cons next members =>
          have hcomma : EndsNumber
              (',' :: (prettyMembers level (next :: members) ++ (gap ++ '\x7d' :: rest))) :=
            endsNumber_cons (by decide) _
          have hwritten : prettyMembers level ((key, v) :: next :: members) ++
              (gap ++ '\x7d' :: rest) =
              newline level ++ (quote key ++ ':' :: ([' '] ++ (pretty level v ++
                ',' :: (prettyMembers level (next :: members) ++ (gap ++ '\x7d' :: rest))))) := by
            simp [prettyMembers_cons]
          rw [hwritten, Reading.run_key hnewline, hv level _ _ _ hspace hcomma,
            Reading.run_nextMember, ih hmembers (by simp)]
          simp

/-- A list is read back if its items are. -/
theorem readsBack_list {items : List Value} (hitems : ∀ v ∈ items, ReadsBack v) :
    ReadsBack (.list items) := by
  intro level within gap rest hgap _
  cases items with
  | nil =>
      rw [pretty]
      exact Reading.run_emptyList hgap
  | cons v items =>
      have hnewline := blank_newline (level + 1)
      have hwritten : pretty level (.list (v :: items)) ++ rest =
          '[' :: (prettyItems (level + 1) (v :: items) ++ (newline level ++ ']' :: rest)) := by
        simp [pretty_list]
      have hfirst : (skipBlank (prettyItems (level + 1) (v :: items) ++
          (newline level ++ ']' :: rest))).head? ≠ some ']' := by
        obtain ⟨c, tail, hitems, hc, hne⟩ := exists_prettyItems_eq (level + 1) v items
        rw [hitems, List.append_assoc, List.cons_append, skipBlank_append hnewline hc]
        simpa using hne
      rw [hwritten, Reading.run_openList hgap hfirst]
      exact run_prettyItems hitems (by simp) (level + 1) [] (blank_newline level) rest

/-- An object is read back if the values of its members are. -/
theorem readsBack_object {members : List (String × Value)}
    (hmembers : ∀ m ∈ members, ReadsBack m.2) :
    ReadsBack (.object members) := by
  intro level within gap rest hgap _
  cases members with
  | nil =>
      rw [pretty]
      exact Reading.run_emptyObject hgap
  | cons m members =>
      have hnewline := blank_newline (level + 1)
      have hwritten : pretty level (.object (m :: members)) ++ rest =
          '\x7b' :: (prettyMembers (level + 1) (m :: members) ++
            (newline level ++ '\x7d' :: rest)) := by
        simp [pretty_object]
      have hfirst : (skipBlank (prettyMembers (level + 1) (m :: members) ++
          (newline level ++ '\x7d' :: rest))).head? ≠ some '\x7d' := by
        obtain ⟨tail, hmembers⟩ := exists_prettyMembers_eq (level + 1) m members
        rw [hmembers, List.append_assoc, List.cons_append, skipBlank_append hnewline (by decide)]
        simp
      rw [hwritten, Reading.run_openObject hgap hfirst]
      exact run_prettyMembers hmembers (by simp) (level + 1) [] (blank_newline level) rest

/-- **A value whose numbers fit is read back from what is written for it.** -/
theorem readsBack_of_fits {v : Value} (hv : Fits v) : ReadsBack v := by
  induction hv with
  | bool b => exact readsBack_bool b
  | natural hn => exact readsBack_natural hn
  | text s => exact readsBack_text s
  | list _ ih => exact readsBack_list ih
  | object _ ih => exact readsBack_object ih

/-- **A whole document is read back.** -/
theorem readDocument_pretty {v : Value} (hv : Fits v) :
    readDocument (String.ofList (pretty 0 v)) = .ok v := by
  have hrun := readsBack_of_fits hv 0 [] [] [] blank_nil endsNumber_nil
  rw [List.nil_append, List.append_nil] at hrun
  have hdone : Reading.run ⟨.behind v, [], []⟩ = .ok (v, []) := by
    rw [Reading.run]
    rfl
  simp [readDocument, hrun, hdone, readEnd_nil, bind, Except.bind, pure, Except.pure]

end Dealias.Json
