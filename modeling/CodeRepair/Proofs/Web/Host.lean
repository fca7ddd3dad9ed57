import CodeRepair.Proofs.Text.Encoding
import CodeRepair.Proofs.Text.Number
import CodeRepair.Proofs.Web.Path

/-!
# Hosts with something behind them

White space and control characters in a host are neither digits nor dots, and no percent sign makes
them part of a byte.  So with such characters behind it a host is refused, or it is another host.
-/

namespace CodeRepair.Web

/-- Neither a visible character of ASCII nor its last control character. -/
def IsFiller (c : Char) : Prop :=
  c.toNat ≤ 0x20 ∨ 0x7F < c.toNat

namespace IsFiller

variable {c : Char}

theorem ne (h : IsFiller c) {d : Char} (hlow : 0x20 < d.toNat) (hhigh : d.toNat ≤ 0x7F) : c ≠ d := by
  rintro rfl
  unfold IsFiller at h
  omega

theorem isDigit_eq_false (h : IsFiller c) : c.isDigit = false := by
  rw [Bool.eq_false_iff]
  intro hdigit
  have hrange : 0x30 ≤ c.toNat ∧ c.toNat ≤ 0x39 := by
    simpa [Char.isDigit, UInt32.le_iff_toNat_le] using hdigit
  unfold IsFiller at h
  omega

theorem toLower_eq (h : IsFiller c) : c.toLower = c := by
  have hupper : ¬ (c.val ≥ 'A'.val ∧ c.val ≤ 'Z'.val) := by
    rintro ⟨hlow, hhigh⟩
    have hlow' : 0x41 ≤ c.toNat := hlow
    have hhigh' : c.toNat ≤ 0x5A := hhigh
    unfold IsFiller at h
    omega
  unfold Char.toLower
  exact dif_neg hupper

theorem hexValue?_eq_none (h : IsFiller c) : Json.hexValue? c = none := by
  have hrange (low high : Char) (hlow : 0x20 < low.toNat) (hhigh : high.toNat ≤ 0x7F) :
      (decide (low ≤ c) && decide (c ≤ high)) = false := by
    rw [Bool.and_eq_false_iff, decide_eq_false_iff_not, decide_eq_false_iff_not]
    have hle (a b : Char) : a ≤ b ↔ a.toNat ≤ b.toNat := Iff.rfl
    rw [hle, hle]
    unfold IsFiller at h
    omega
  simp [Json.hexValue?, hrange '0' '9' (by decide) (by decide),
    hrange 'a' 'f' (by decide) (by decide), hrange 'A' 'F' (by decide) (by decide)]

end IsFiller

variable {text more : Text}

/-! ## Bytes -/

theorem hexNumber?_of_filler {a b : Char} (h : IsFiller a ∨ IsFiller b) :
    Json.hexNumber? [a, b] = none := by
  rcases h with h | h
  · simp [Json.hexNumber?, h.hexValue?_eq_none]
  · simp [Json.hexNumber?, h.hexValue?_eq_none]

/-- A character stands for itself unless it is a percent sign in front of two hexadecimal digits. -/
theorem percentDecode_cons {c : Char}
    (h : ∀ a b rest, c = '%' → text = a :: b :: rest → Json.hexNumber? [a, b] = none) :
    percentDecode (c :: text) = Text.encode [c] ++ percentDecode text := by
  rw [percentDecode.eq_def]
  split
  · next a b rest heq =>
    obtain ⟨rfl, rfl⟩ := List.cons.inj heq
    rw [h a b rest rfl rfl]
  · next heq =>
    obtain ⟨rfl, rfl⟩ := List.cons.inj heq
    rfl
  · next heq => cases heq

theorem percentDecode_of_filler (h : ∀ c ∈ text, IsFiller c) :
    percentDecode text = Text.encode text := by
  induction text with
  | nil => rw [percentDecode]; rfl
  | cons c text ih =>
    rw [List.forall_mem_cons] at h
    rw [percentDecode_cons fun a b rest hc ↦ absurd hc (h.1.ne (by decide) (by decide)), ih h.2,
      ← Text.encode_append, List.singleton_append]

theorem percentDecode_append (text : Text) (h : ∀ c ∈ more, IsFiller c) :
    percentDecode (text ++ more) = percentDecode text ++ Text.encode more := by
  fun_induction percentDecode text with
  | case1 a b text n hn ih =>
    rw [List.cons_append, List.cons_append, List.cons_append, percentDecode]
    simp only [hn, ih, List.cons_append]
  | case2 a b text hn ih =>
    rw [List.cons_append, List.cons_append, List.cons_append, percentDecode]
    simp only [hn, List.append_assoc]
    rw [← ih]
    rfl
  | case3 c text hpercent ih =>
    rw [List.cons_append, percentDecode_cons, ih, List.append_assoc]
    intro a b rest hc hrest
    -- A percent sign that stands so near to the end has a character of `more` behind it.
    subst hc
    match text, hpercent, hrest with
    | [], _, hrest =>
      have ha : a ∈ more := by
        rw [List.nil_append] at hrest
        rw [hrest]
        exact List.mem_cons_self
      exact hexNumber?_of_filler (.inl (h a ha))
    | [d], _, hrest =>
      have hb : b ∈ more := by
        rw [List.singleton_append] at hrest
        rw [(List.cons.inj hrest).2]
        exact List.mem_cons_self
      exact hexNumber?_of_filler (.inr (h b hb))
    | d :: e :: others, hpercent, hrest => exact absurd rfl (hpercent d e others rfl)
  | case4 =>
    rw [List.nil_append, percentDecode_of_filler h]
    rfl

/-! ## Numbers -/

/-- The steps that read a number in some base. -/
theorem foldl_hexValue?_eq_none {base : Nat} {c : Char} {digits : Text} (hc : c ∈ digits)
    (h : IsFiller c) (start : Option Nat) :
    digits.foldl (fun n c ↦ do
      let value ← Json.hexValue? c
      if value < base then return base * (← n) + value else none) start = none := by
  have hnone (digits : Text) : digits.foldl (fun n c ↦ do
      let value ← Json.hexValue? c
      if value < base then return base * (← n) + value else none) (none : Option Nat) = none := by
    induction digits with
    | nil => rfl
    | cons d digits ih =>
      rw [List.foldl_cons]
      cases Json.hexValue? d with
      | none => exact ih
      | some value =>
        by_cases hvalue : value < base
        · simpa [hvalue] using ih
        · simpa [hvalue] using ih
  induction digits generalizing start with
  | nil => cases hc
  | cons d digits ih =>
    rw [List.foldl_cons]
    rcases List.mem_cons.1 hc with rfl | hc
    · rw [h.hexValue?_eq_none]
      exact hnone digits
    · exact ih hc _

theorem hostNumber?_eq_none {c : Char} {part : Text} (hc : c ∈ part) (h : IsFiller c) :
    hostNumber? part = none := by
  have hzero : c ≠ '0' := h.ne (by decide) (by decide)
  have hx : c ≠ 'x' := h.ne (by decide) (by decide)
  unfold hostNumber?
  split
  next base digits heq =>
  have hdigits : c ∈ digits := by
    split at heq
    · obtain ⟨-, rfl⟩ := Prod.mk.inj heq
      simpa [hzero, hx] using hc
    · obtain ⟨-, rfl⟩ := Prod.mk.inj heq
      simpa [hzero] using hc
    · obtain ⟨-, rfl⟩ := Prod.mk.inj heq
      exact hc
  rw [foldl_hexValue?_eq_none hdigits h]
  split <;> rfl

theorem endsInNumber_append (text : Text) (hne : more ≠ []) (h : ∀ c ∈ more, IsFiller c) :
    endsInNumber (text ++ more) = false := by
  obtain ⟨front, last, -, happend⟩ := Text.exists_pieces_eq '.' text
  have hdot : '.' ∉ more := fun hdot ↦ (h '.' hdot).ne (by decide) (by decide) rfl
  have hpieces := happend more hdot
  obtain ⟨c, hc⟩ := List.exists_mem_of_ne_nil more hne
  have hlast : c ∈ last ++ more := List.mem_append_right last hc
  have hempty : last ++ more ≠ [] := List.ne_nil_of_mem hlast
  have hparts : hostParts (text ++ more) = front ++ [last ++ more] := by
    simp [hostParts, hpieces, hempty]
  have hdigits : (last ++ more).all Char.isDigit = false := by
    rw [List.all_eq_false]
    exact ⟨c, hlast, by rw [(h c hc).isDigit_eq_false]; exact Bool.false_ne_true⟩
  simp [endsInNumber, hparts, hdigits, hostNumber?_eq_none hlast (h c hc)]

theorem not_mem_dotted {c : Char} (h : IsFiller c) (n : Nat) : c ∉ dotted n := by
  have hdot : c ≠ '.' := h.ne (by decide) (by decide)
  have hnumber (n : Nat) : c ∉ Text.ofNat n := by
    intro hc
    have hdigit := Text.isDigit_of_mem_digits hc
    rw [h.isDigit_eq_false] at hdigit
    cases hdigit
  simp [dotted, hdot, hnumber]

theorem exists_eq_dotted {host number : Text} (h : numberHost? host = some number) :
    ∃ n, number = dotted n := by
  obtain ⟨numbers, -, h⟩ := Option.bind_eq_some_iff.1 h
  obtain ⟨last, -, h⟩ := Option.bind_eq_some_iff.1 h
  dsimp only at h
  split at h
  · cases h
  · exact ⟨_, (Option.some.inj h).symm⟩

/-! ## Hosts -/

/-- What a host is once it is decoded and in small letters. -/
def hostOfName? (name : Text) : Option Text :=
  if name.isEmpty || name.any isForbidden then none
  else if endsInNumber name then numberHost? name
  else some name

theorem host?_cons {c : Char} (hc : c ≠ '[') (rest : Text) :
    host? (c :: rest) =
      (Text.decode? (percentDecode (c :: rest))).bind fun decoded ↦
        hostOfName? (decoded.map Char.toLower) := by
  rw [host?.eq_def]
  split
  · next heq => cases heq
  · next heq => exact absurd (List.cons.inj heq).1 hc
  · cases Text.decode? (percentDecode (c :: rest)) <;> rfl

/-- A name is its own host, or it is the number of one. -/
theorem hostOfName?_cases {name host : Text} (h : hostOfName? name = some host) :
    host = name ∨ ∃ n, host = dotted n := by
  unfold hostOfName? at h
  split at h
  · cases h
  split at h
  · exact .inr (exists_eq_dotted h)
  · exact .inl (Option.some.inj h).symm

/-- With something behind it a name is refused as a host, or it is the host itself. -/
theorem hostOfName?_append {name other : Text} (hne : more ≠ []) (h : ∀ c ∈ more, IsFiller c)
    (hother : hostOfName? (name ++ more) = some other) : other = name ++ more := by
  unfold hostOfName? at hother
  rw [endsInNumber_append name hne h] at hother
  split at hother
  · cases hother
  · exact (Option.some.inj hother).symm

/-- With something behind it a host is refused, or it is another host. -/
theorem host?_append_ne {host other : Text} (hne : more ≠ []) (h : ∀ c ∈ more, IsFiller c)
    (hhost : host? text = some host) (hother : host? (text ++ more) = some other) : other ≠ host := by
  obtain ⟨d, hd⟩ := List.exists_mem_of_ne_nil more hne
  cases text with
  | nil => cases hhost
  | cons c text =>
    rw [List.cons_append] at hother
    by_cases hc : c = '['
    · subst hc
      simp only [host?, List.getLast?_append_of_ne_nil _ hne] at hother
      split at hother
      · next hlast =>
        have hbracket := h ']' (List.mem_of_getLast? hlast)
        exact absurd rfl (hbracket.ne (by decide) (by decide))
      · cases hother
    · rw [host?_cons hc] at hhost hother
      obtain ⟨decoded, hdecoded, hhost⟩ := Option.bind_eq_some_iff.1 hhost
      have hlower : more.map Char.toLower = more := by
        calc
          more.map Char.toLower = more.map id := List.map_congr_left fun c hc ↦ (h c hc).toLower_eq
          _ = more := List.map_id more
      rw [← List.cons_append, percentDecode_append _ h, Text.decode?_append_encode, hdecoded,
        Option.map_some, Option.bind_some, List.map_append, hlower] at hother
      rw [hostOfName?_append hne h hother]
      rcases hostOfName?_cases hhost with rfl | ⟨n, rfl⟩
      · intro heq
        exact hne (List.append_right_eq_self.1 heq)
      · intro heq
        exact not_mem_dotted (h d hd) n (heq ▸ List.mem_append_right _ hd)

end CodeRepair.Web
