import DeviceConsole.Json.Reader
import Mathlib.Tactic.SplitIfs

/-! Reading a part of a text. Where all of a text can be read, so can any part of it, and what is
wanted of the value is the same. -/
namespace DeviceConsole.Json

/-! ### Values that agree -/

mutual

/-- The same value as far as it is wanted. -/
inductive Agree : Want → Json → Json → Prop
  | same (want : Want) (j : Json) : Agree want j j
  | nothing (j k : Json) : Agree .nothing j k
  | arr {want : Want} {as bs : List Json} (h : AgreeItems want 0 as bs) :
      Agree want (.arr as) (.arr bs)
  | obj {want : Want} {fs gs : List (String × Json)} (h : AgreeFields want fs gs) :
      Agree want (.obj fs) (.obj gs)

inductive AgreeItems : Want → Nat → List Json → List Json → Prop
  | nil {want : Want} {i : Nat} : AgreeItems want i [] []
  | cons {want : Want} {i : Nat} {a b : Json} {as bs : List Json}
      (head : Agree (want.ofItem i) a b) (tail : AgreeItems want (i + 1) as bs) :
      AgreeItems want i (a :: as) (b :: bs)

inductive AgreeFields : Want → List (String × Json) → List (String × Json) → Prop
  | nil {want : Want} : AgreeFields want [] []
  | cons {want : Want} {key : String} {a b : Json} {fs gs : List (String × Json)}
      (head : Agree (want.ofField key) a b) (tail : AgreeFields want fs gs) :
      AgreeFields want ((key, a) :: fs) ((key, b) :: gs)

end

theorem Agree.of_isNothing {want : Want} {j k : Json} (h : want.isNothing = true) :
    Agree want j k := by
  cases want with
  | nothing => exact .nothing j k
  | _ => cases h

mutual

theorem Agree.eq {j k : Json} (h : Agree .all j k) : j = k := by
  match h with
  | .same _ _ => rfl
  | .arr h => rw [AgreeItems.eq h]
  | .obj h => rw [AgreeFields.eq h]

theorem AgreeItems.eq {i : Nat} {as bs : List Json} (h : AgreeItems .all i as bs) : as = bs := by
  match h with
  | .nil => rfl
  | .cons h hs => rw [Agree.eq h, AgreeItems.eq hs]

theorem AgreeFields.eq {fs gs : List (String × Json)} (h : AgreeFields .all fs gs) : fs = gs := by
  match h with
  | .nil => rfl
  | .cons h hs => rw [Agree.eq h, AgreeFields.eq hs]

end

/-! ### Numbers -/

variable {positive : Bool} {n : Nat} {e : Int} {cs rest : List Char} {v : Json}

theorem readScaled_skip (h : readScaled true positive n e cs = .ok (v, rest)) :
    ∃ w, readScaled false positive n e cs = .ok (w, rest) := by
  refine ⟨null, ?_⟩
  unfold readScaled at h ⊢
  cases hx : (Binary64.ofNat n).scaleTen? e with
  | some x =>
    rw [hx] at h
    cases h
    rfl
  | none =>
    rw [hx] at h
    cases h

theorem readExponent_skip (h : readExponent true positive n e cs = .ok (v, rest)) :
    ∃ w, readExponent false positive n e cs = .ok (w, rest) := by
  unfold readExponent at h ⊢
  split at h
  rename_i negative ds _
  cases ds with
  | nil => cases h
  | cons c ds =>
    dsimp only at h ⊢
    by_cases hc : (!c.isDigit) = true
    · rw [if_pos hc] at h
      cases h
    · rw [if_neg hc] at h ⊢
      by_cases hk : 2147483647 < Nat.ofDigitChars 10 ((c :: ds).takeWhile Char.isDigit) 0
      · rw [if_pos hk] at h
        rw [if_pos hk, if_neg (by simp)]
        split_ifs at h
        · cases h
        · exact ⟨v, h⟩
      · rw [if_neg hk] at h ⊢
        exact readScaled_skip h

theorem readScale_skip (h : readScale true positive n e cs = .ok (v, rest)) :
    ∃ w, readScale false positive n e cs = .ok (w, rest) := by
  unfold readScale at h ⊢
  split at h
  · exact readExponent_skip h
  · exact readExponent_skip h
  · exact readScaled_skip h

theorem readFraction_skip (h : readFraction true positive n e cs = .ok (v, rest)) :
    ∃ w, readFraction false positive n e cs = .ok (w, rest) := by
  unfold readFraction at h ⊢
  split at h
  rename_i count ds _
  cases ds with
  | nil =>
    dsimp only at h ⊢
    split_ifs at h ⊢
    · cases h
    · exact readScale_skip h
  | cons c ds =>
    dsimp only at h ⊢
    split_ifs at h ⊢
    · exact readScale_skip h
    · cases h
    · exact readScale_skip h

theorem readAfterInteger_skip (h : readAfterInteger true positive n cs = .ok (v, rest)) :
    ∃ w, readAfterInteger false positive n cs = .ok (w, rest) := by
  unfold readAfterInteger at h ⊢
  split at h
  · exact readFraction_skip h
  · exact readExponent_skip h
  · exact readExponent_skip h
  · exact ⟨v, h⟩

theorem readNumber_skip (h : readNumber true positive cs = .ok (v, rest)) :
    ∃ w, readNumber false positive cs = .ok (w, rest) := by
  unfold readNumber at h ⊢
  split at h
  · cases h
  · split at h
    · split_ifs at h ⊢
      · cases h
      · exact readAfterInteger_skip h
    · exact readAfterInteger_skip h
  · split_ifs at h ⊢ with hc
    · cases h
    · split at h
      split at h
      · split_ifs at h ⊢
        · dsimp only at h ⊢
          split at h
          · exact readFraction_skip h
          · exact readScale_skip h
        · exact readAfterInteger_skip h
      · exact readAfterInteger_skip h

/-! ### Texts -/

theorem readHex4_length (h : readHex4 cs = .ok (n, rest)) : cs.length = rest.length + 4 := by
  unfold readHex4 at h
  split at h
  · split at h
    · cases h
      rfl
    · cases h
  · cases h

theorem readCode_unwanted (h : readHex4 cs = .ok (n, rest)) :
    readCode false cs = .ok ('?', rest) := by
  simp [readCode, h, bind, Except.bind, pure, Except.pure]

/-- Where the second half of a pair is taken along, a reader that does not look at it finds an
escape of its own there. -/
theorem readCode_skip {c : Char} (h : readCode true cs = .ok (c, rest)) :
    ∃ mid, readCode false cs = .ok ('?', mid) ∧ mid.length < cs.length ∧
      (mid = rest ∨ ∃ ds, mid = '\\' :: 'u' :: ds ∧ readCode false ds = .ok ('?', rest) ∧
        rest.length < ds.length) := by
  unfold readCode at h
  cases hn : readHex4 cs with
  | error f => simp [hn, bind, Except.bind] at h
  | ok p =>
    obtain ⟨n, mid⟩ := p
    have hlen := readHex4_length hn
    refine ⟨mid, readCode_unwanted hn, by omega, ?_⟩
    simp only [hn, bind, Except.bind, pure, Except.pure, Bool.not_true, Bool.false_eq_true,
      ↓reduceIte] at h
    split_ifs at h
    · cases h
      exact .inl rfl
    · cases h
    · split at h
      · cases h
      · split at h
        · cases h
        · rename_i ds
          cases hm : readHex4 ds with
          | error f => simp [hm] at h
          | ok p =>
            obtain ⟨m, after⟩ := p
            simp only [hm] at h
            split_ifs at h
            · cases h
            · obtain rfl : after = rest := congrArg Prod.snd (Except.ok.inj h)
              have := readHex4_length hm
              exact .inr ⟨ds, rfl, readCode_unwanted hm, by omega⟩
        · cases h
      · cases h

theorem readStringAux_code {wanted : Bool} {fuel : Nat} {acc : List Char} {d : Char}
    (h : readCode wanted cs = .ok (d, rest)) :
    readStringAux wanted (fuel + 1) acc ('\\' :: 'u' :: cs) =
      readStringAux wanted fuel (d :: acc) rest := by
  simp [readStringAux, h, bind, Except.bind]

theorem readStringAux_skip {fuel fuel' : Nat} {acc s : List Char} (acc' : List Char)
    (h : readStringAux true fuel acc cs = .ok (s, rest)) (hfuel : cs.length < fuel') :
    ∃ t, readStringAux false fuel' acc' cs = .ok (t, rest) := by
  induction fuel generalizing fuel' acc acc' cs with
  | zero => cases h
  | succ fuel ih =>
    obtain ⟨fuel', rfl⟩ := Nat.exists_eq_add_one_of_ne_zero (Nat.ne_zero_of_lt hfuel)
    cases cs with
    | nil => cases h
    | cons c cs =>
      rw [List.length_cons] at hfuel
      unfold readStringAux at h ⊢
      split_ifs at h ⊢ with hquote hcontrol hplain
      · cases h
        exact ⟨_, rfl⟩
      · cases h
      · exact ih _ h (by omega)
      · split at h
        · cases h
        · rename_i ds
          rw [List.length_cons] at hfuel
          cases hc : readCode true ds with
          | error f => simp [hc, bind, Except.bind] at h
          | ok p =>
            obtain ⟨d, after⟩ := p
            simp only [hc, bind, Except.bind] at h
            obtain ⟨mid, hmid, hlen, rfl | ⟨es, rfl, hes, hlen'⟩⟩ := readCode_skip hc
            · simp only [hmid, bind, Except.bind]
              exact ih _ h (by omega)
            · simp only [List.length_cons] at hlen
              obtain ⟨fuel', rfl⟩ := Nat.exists_eq_add_one_of_ne_zero (by omega : fuel' ≠ 0)
              simp only [hmid, bind, Except.bind]
              rw [readStringAux_code hes]
              exact ih _ h (by omega)
        · split at h
          · rw [List.length_cons] at hfuel
            exact ih _ h (by omega)
          · cases h

theorem readString_skip {s : String} (h : readString true cs = .ok (s, rest)) :
    ∃ t, readString false cs = .ok (t, rest) := by
  unfold readString at h ⊢
  cases ht : readStringAux true (cs.length + 1) [] cs with
  | error f => simp [ht, bind, Except.bind] at h
  | ok p =>
    obtain ⟨reversed, after⟩ := p
    simp only [ht, bind, Except.bind, pure, Except.pure, Except.ok.injEq, Prod.mk.injEq] at h
    obtain ⟨-, rfl⟩ := h
    obtain ⟨t, hread⟩ := readStringAux_skip [] ht (Nat.lt_succ_self _)
    exact ⟨String.ofList t.reverse, by simp [hread, bind, Except.bind, pure, Except.pure]⟩

/-! ### What is read -/

theorem bind_eq_ok {α β : Type} {x : Except Fault α} {f : α → Except Fault β} {b : β} :
    x >>= f = .ok b ↔ ∃ a, x = .ok a ∧ f a = .ok b := by
  cases x <;> simp [bind, Except.bind]

theorem readNumber_agree (want : Want) (h : readNumber true positive cs = .ok (v, rest)) :
    ∃ w, readNumber (!want.isNothing) positive cs = .ok (w, rest) ∧ Agree want v w := by
  cases hw : want.isNothing with
  | false => exact ⟨v, h, .same want v⟩
  | true =>
    obtain ⟨w, hread⟩ := readNumber_skip h
    exact ⟨w, hread, .of_isNothing hw⟩

theorem readString_agree {s : String} (want : Want) (h : readString true cs = .ok (s, rest)) :
    ∃ t, readString (!want.isNothing) cs = .ok (t, rest) ∧ (want.isNothing = false → t = s) := by
  cases hw : want.isNothing with
  | false => exact ⟨s, h, fun _ => rfl⟩
  | true =>
    obtain ⟨t, hread⟩ := readString_skip h
    exact ⟨t, hread, nofun⟩

/-! ### Fields, step by step -/

variable {α : Type} {first : Bool} {c : Char} {goOn : List Char → Except Fault α} {a : α}

/-- A field begins behind a comma, unless it is the first. -/
def behindComma (first : Bool) (goOn : List Char → Except Fault α) (c : Char) (cs : List Char) :
    Except Fault α := do
  let start ←
    if first then pure (c :: cs)
    else if c = ',' then
      match skipSpace cs with
      | [] => failAhead "EOF while parsing a value" []
      | '\x7d' :: cs => failAhead "trailing comma" ('\x7d' :: cs)
      | cs => pure cs
    else failAhead "expected \x60,\x60 or \x60\x7d\x60" (c :: cs)
  goOn start

def behindQuote (goOn : List Char → Except Fault α) (cs : List Char) : Except Fault α := do
  let quoted ← match cs with
    | '"' :: cs => pure cs
    | cs => failAhead "key must be a string" cs
  goOn quoted

def behindColon (goOn : List Char → Except Fault α) (cs : List Char) : Except Fault α := do
  let start ← match skipSpace cs with
    | [] => failAhead "EOF while parsing an object" []
    | ':' :: cs => pure cs
    | cs => failAhead "expected \x60:\x60" cs
  goOn start

theorem behindComma_eq_ok :
    behindComma first goOn c cs = .ok a ↔
      ∃ start, behindComma first pure c cs = .ok start ∧ goOn start = .ok a := by
  rw [← bind_eq_ok]
  unfold behindComma
  split_ifs
  · rfl
  · dsimp only
    split <;> rfl
  · rfl

theorem behindQuote_eq_ok :
    behindQuote goOn cs = .ok a ↔
      ∃ start, behindQuote pure cs = .ok start ∧ goOn start = .ok a := by
  rw [← bind_eq_ok]
  unfold behindQuote
  split <;> rfl

theorem behindColon_eq_ok :
    behindColon goOn cs = .ok a ↔
      ∃ start, behindColon pure cs = .ok start ∧ goOn start = .ok a := by
  rw [← bind_eq_ok]
  unfold behindColon
  dsimp only
  split <;> rfl

theorem readFields_eq (fuel depth : Nat) (want : Want) (first : Bool) (cs : List Char) :
    readFields (fuel + 1) depth want first cs =
      match skipSpace cs with
      | [] => failAhead "EOF while parsing an object" []
      | '\x7d' :: cs => .ok ([], cs)
      | c :: cs => behindComma first (fun start => behindQuote (fun quoted => do
          let (key, rest) ← readString (!want.isNothing) quoted
          behindColon (fun start => do
            let (value, rest) ← readValue fuel depth (want.ofField key) start
            let (fields, rest) ← readFields fuel depth want false rest
            return ((key, value) :: fields, rest)) rest) start) c cs := by
  rw [readFields]
  rfl

/-! ### Values -/

/-- Where there is depth left for all of a value, there is for a part of it. -/
theorem depth_left {depth : Nat} {reason : String} {x : Except Fault α} (want : Want)
    (h : (if (!Want.all.isNothing && depth = 0) = true then failAhead reason cs else x) = .ok a) :
    x = .ok a ∧ (!want.isNothing && decide (depth = 0)) = false := by
  by_cases hdepth : depth = 0
  · rw [if_pos (by simp [hdepth, Want.isNothing])] at h
    cases h
  · rw [if_neg (by simp [hdepth])] at h
    exact ⟨h, by simp [hdepth]⟩

mutual

theorem readValue_agree {fuel depth : Nat} {cs rest : List Char} {v : Json} (want : Want)
    (h : readValue fuel depth .all cs = .ok (v, rest)) :
    ∃ w, readValue fuel depth want cs = .ok (w, rest) ∧ Agree want v w := by
  match fuel with
  | 0 => simp [readValue, failAhead] at h
  | fuel + 1 =>
    rw [readValue] at h ⊢
    cases hs : skipSpace cs with
    | nil => simp [hs, failAhead] at h
    | cons c ds =>
      simp only [hs] at h ⊢
      by_cases hn : c = 'n'
      · rw [if_pos hn] at h ⊢
        exact ⟨v, h, .same want v⟩
      rw [if_neg hn] at h ⊢
      by_cases ht : c = 't'
      · rw [if_pos ht] at h ⊢
        exact ⟨v, h, .same want v⟩
      rw [if_neg ht] at h ⊢
      by_cases hf : c = 'f'
      · rw [if_pos hf] at h ⊢
        exact ⟨v, h, .same want v⟩
      rw [if_neg hf] at h ⊢
      by_cases hminus : c = '-'
      · rw [if_pos hminus] at h ⊢
        exact readNumber_agree want h
      rw [if_neg hminus] at h ⊢
      by_cases hdigit : c.isDigit = true
      · rw [if_pos hdigit] at h ⊢
        exact readNumber_agree want h
      rw [if_neg hdigit] at h ⊢
      by_cases hquote : c = '"'
      · rw [if_pos hquote] at h ⊢
        obtain ⟨⟨s, after⟩, hread, hv⟩ := bind_eq_ok.mp h
        cases hv
        obtain ⟨t, ht, hst⟩ := readString_agree want hread
        refine ⟨.str t, bind_eq_ok.mpr ⟨_, ht, rfl⟩, ?_⟩
        cases hw : want.isNothing with
        | false => exact hst hw ▸ .same want _
        | true => exact .of_isNothing hw
      rw [if_neg hquote] at h ⊢
      by_cases harr : c = '['
      · rw [if_pos harr] at h ⊢
        obtain ⟨h, hleft⟩ := depth_left want h
        rw [hleft, if_neg Bool.false_ne_true]
        obtain ⟨⟨as, after⟩, hread, hv⟩ := bind_eq_ok.mp h
        cases hv
        obtain ⟨bs, hbs, habs⟩ := readItems_agree want hread
        exact ⟨.arr bs, bind_eq_ok.mpr ⟨_, hbs, rfl⟩, .arr habs⟩
      rw [if_neg harr] at h ⊢
      by_cases hobj : c = '\x7b'
      · rw [if_pos hobj] at h ⊢
        obtain ⟨h, hleft⟩ := depth_left want h
        rw [hleft, if_neg Bool.false_ne_true]
        obtain ⟨⟨fs, after⟩, hread, hv⟩ := bind_eq_ok.mp h
        cases hv
        obtain ⟨gs, hgs, hfields⟩ := readFields_agree want hread
        refine ⟨.obj gs, bind_eq_ok.mpr ⟨_, hgs, rfl⟩, ?_⟩
        cases hw : want.isNothing with
        | false => exact .obj (hfields hw)
        | true => exact .of_isNothing hw
      rw [if_neg hobj] at h
      cases h

theorem readItems_agree {fuel depth i : Nat} {cs rest : List Char} {as : List Json} (want : Want)
    (h : readItems fuel depth .all i cs = .ok (as, rest)) :
    ∃ bs, readItems fuel depth want i cs = .ok (bs, rest) ∧ AgreeItems want i as bs := by
  match fuel with
  | 0 => simp [readItems, failAhead] at h
  | fuel + 1 =>
    rw [readItems] at h ⊢
    split at h
    · cases h
    · cases h
      exact ⟨[], rfl, .nil⟩
    · -- Wherever the item begins, the reader goes on in the same way.
      have hgoOn (start : List Char)
          (h : (readValue fuel depth .all start >>= fun item =>
            readItems fuel depth .all (i + 1) item.2 >>= fun items =>
            pure (item.1 :: items.1, items.2)) = .ok (as, rest)) :
          ∃ bs, (readValue fuel depth (want.ofItem i) start >>= fun item =>
            readItems fuel depth want (i + 1) item.2 >>= fun items =>
            pure (item.1 :: items.1, items.2)) = .ok (bs, rest) ∧ AgreeItems want i as bs := by
        obtain ⟨⟨a, mid⟩, ha, h⟩ := bind_eq_ok.mp h
        obtain ⟨⟨tail, last⟩, htail, h⟩ := bind_eq_ok.mp h
        cases h
        obtain ⟨b, hb, hab⟩ := readValue_agree (want.ofItem i) ha
        obtain ⟨bs, hbs, habs⟩ := readItems_agree want htail
        exact ⟨b :: bs, bind_eq_ok.mpr ⟨_, hb, bind_eq_ok.mpr ⟨_, hbs, rfl⟩⟩, .cons hab habs⟩
      dsimp only at h ⊢
      split_ifs at h ⊢
      · exact hgoOn _ h
      · split at h
        · cases h
        · cases h
        · exact hgoOn _ h
      · cases h

theorem readFields_agree {fuel depth : Nat} {first : Bool} {cs rest : List Char}
    {fs : List (String × Json)} (want : Want)
    (h : readFields fuel depth .all first cs = .ok (fs, rest)) :
    ∃ gs, readFields fuel depth want first cs = .ok (gs, rest) ∧
      (want.isNothing = false → AgreeFields want fs gs) := by
  match fuel with
  | 0 => simp [readFields, failAhead] at h
  | fuel + 1 =>
    rw [readFields_eq] at h ⊢
    split at h
    · cases h
    · cases h
      exact ⟨[], rfl, fun _ => .nil⟩
    · obtain ⟨start, hstart, h⟩ := behindComma_eq_ok.mp h
      obtain ⟨quoted, hquoted, h⟩ := behindQuote_eq_ok.mp h
      obtain ⟨⟨key, mid⟩, hkey, h⟩ := bind_eq_ok.mp h
      obtain ⟨colon, hcolon, h⟩ := behindColon_eq_ok.mp h
      obtain ⟨⟨a, mid'⟩, ha, h⟩ := bind_eq_ok.mp h
      obtain ⟨⟨tail, last⟩, htail, h⟩ := bind_eq_ok.mp h
      cases h
      obtain ⟨key', hkey', hsame⟩ := readString_agree want hkey
      obtain ⟨b, hb, hab⟩ := readValue_agree (want.ofField key') ha
      obtain ⟨gs, hgs, hfields⟩ := readFields_agree want htail
      refine ⟨(key', b) :: gs, behindComma_eq_ok.mpr ⟨start, hstart, behindQuote_eq_ok.mpr
        ⟨quoted, hquoted, bind_eq_ok.mpr ⟨_, hkey', behindColon_eq_ok.mpr ⟨colon, hcolon,
          bind_eq_ok.mpr ⟨_, hb, bind_eq_ok.mpr ⟨_, hgs, rfl⟩⟩⟩⟩⟩⟩, fun hw => ?_⟩
      obtain rfl := hsame hw
      exact .cons hab (hfields hw)

end

/-- Where all of a text can be read, so can any part of it, and what is wanted is the same. -/
theorem read_agree {text : String} {v : Json} (want : Want) (h : read .all text = .ok v) :
    ∃ w, read want text = .ok w ∧ Agree want v w := by
  unfold read readChars at h ⊢
  cases hv : readValue (text.toList.length + 1) depthLimit .all text.toList with
  | error f => simp [hv, bind, Except.bind, Except.mapError] at h
  | ok p =>
    obtain ⟨u, rest⟩ := p
    obtain ⟨w, hw, huw⟩ := readValue_agree want hv
    cases hs : skipSpace rest with
    | cons c cs => simp [hv, hs, failAhead, bind, Except.bind, Except.mapError] at h
    | nil =>
      obtain rfl : u = v := by
        simpa [hv, hs, bind, Except.bind, pure, Except.pure, Except.mapError] using h
      exact ⟨w, by simp [hw, hs, bind, Except.bind, pure, Except.pure, Except.mapError], huw⟩

end DeviceConsole.Json
