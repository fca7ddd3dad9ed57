import CodeRepair.Proofs.Text.Stop
import CodeRepair.Proofs.Web.Host

/-!
# Addresses with something put behind them

An address is its scheme, its host with a port, its path and its query.  A text that begins with a
slash, put behind an address without a query, only makes its path longer; something else in between
changes the host or the last piece of the path; and behind a query nothing changes the path at all.
-/

namespace CodeRepair.Web.Address

variable {isSecure : Bool} {text more : Text}

/-! ## Hosts and ports -/

/-- The host in front of a port, with the brackets around it. -/
def hostOf (text : Text) : Text :=
  if text.head? == some '[' then text.takeWhile (· != ']') ++ [']'] else text.takeWhile (· != ':')

/-- A host with what is behind it, which must be a port if there is anything. -/
theorem hostAndPort?_eq_some {found : Text × Nat} (h : hostAndPort? isSecure text = some found) :
    host? (hostOf text) = some found.1 ∧
      ∀ c ∈ text.drop (hostOf text).length, c = ':' ∨ c.isDigit = true := by
  have hhost {number : Nat} (h : (host? (hostOf text)).map (fun host ↦ (host, number)) = some found) :
      host? (hostOf text) = some found.1 := by
    obtain ⟨host, heq, rfl⟩ := Option.map_eq_some_iff.1 h
    exact heq
  have hhostOf : (if text.head? == some '[' then text.takeWhile (· != ']') ++ [']']
      else text.takeWhile (· != ':')) = hostOf text := rfl
  unfold hostAndPort? at h
  dsimp only at h
  rw [hhostOf] at h
  generalize text.drop (hostOf text).length = rest at h
  split at h
  · exact ⟨hhost h, by simp⟩
  · next digits =>
    split at h
    · next hempty =>
      rw [List.isEmpty_iff] at hempty
      subst hempty
      exact ⟨hhost h, by simp⟩
    split at h
    · cases h
    · next hdigits =>
      split at h
      · cases h
      · have hall : ∀ c ∈ digits, c.isDigit = true := by simpa using hdigits
        refine ⟨hhost h, fun c hc ↦ ?_⟩
        rcases List.mem_cons.1 hc with rfl | hc
        · exact .inl rfl
        · exact .inr (hall c hc)
  · cases h

/-- With something behind it a host is refused, or it is another host. -/
theorem hostAndPort?_append_ne {found other : Text × Nat} (hne : more ≠ [])
    (hmore : ∀ c ∈ more, IsFiller c) (h : hostAndPort? isSecure text = some found)
    (hother : hostAndPort? isSecure (text ++ more) = some other) : other.1 ≠ found.1 := by
  obtain ⟨hhost, -⟩ := hostAndPort?_eq_some h
  obtain ⟨hotherHost, hport⟩ := hostAndPort?_eq_some hother
  obtain ⟨d, hd⟩ := List.exists_mem_of_ne_nil more hne
  have hnot (stop : Char) (hlow : 0x20 < stop.toNat) (hhigh : stop.toNat ≤ 0x7F) : stop ∉ more :=
    fun hmem ↦ (hmore stop hmem).ne hlow hhigh rfl
  -- A port has no such characters in it.
  have hsame (heq : hostOf (text ++ more) = hostOf text)
      (hlength : (hostOf text).length ≤ text.length) : False := by
    rw [heq, List.drop_append_of_le_length hlength] at hport
    rcases hport d (List.mem_append_right _ hd) with hcolon | hdigit
    · exact (hmore d hd).ne (by decide) (by decide) hcolon
    · rw [(hmore d hd).isDigit_eq_false] at hdigit
      cases hdigit
  cases text with
  | nil => cases hhost
  | cons c text =>
    by_cases hc : c = '['
    · subst hc
      have hbracketed (rest : Text) :
          hostOf ('[' :: rest) = ('[' :: rest).takeWhile (· != ']') ++ [']'] := rfl
      by_cases hmem : ']' ∈ '[' :: text
      · refine absurd (hsame ?_ ?_) id
        · rw [List.cons_append, hbracketed, ← List.cons_append, Text.takeWhile_append_of_mem hmem]
          rfl
        · rw [hbracketed, List.length_append]
          exact Text.length_takeWhile_lt hmem
      · have hboth : ']' ∉ '[' :: text ++ more := by
          rw [List.mem_append, not_or]
          exact ⟨hmem, hnot ']' (by decide) (by decide)⟩
        rw [hbracketed, Text.takeWhile_of_not_mem hmem] at hhost
        rw [List.cons_append, hbracketed, ← List.cons_append, Text.takeWhile_of_not_mem hboth] at hotherHost
        have hself (rest : Text) : host? ('[' :: rest ++ [']']) = some ('[' :: rest ++ [']']) := by
          simp [host?]
        rw [hself] at hhost
        rw [List.cons_append, hself, ← List.cons_append] at hotherHost
        rw [← Option.some.inj hhost, ← Option.some.inj hotherHost]
        intro heq
        have hlength := congrArg List.length heq
        have hpositive := List.length_pos_iff.2 hne
        simp only [List.length_append] at hlength
        omega
    · have hplain (rest : Text) : hostOf (c :: rest) = (c :: rest).takeWhile (· != ':') := by
        simp [hostOf, hc]
      by_cases hmem : ':' ∈ c :: text
      · refine absurd (hsame ?_ ?_) id
        · rw [List.cons_append, hplain, ← List.cons_append, Text.takeWhile_append_of_mem hmem, hplain]
        · rw [hplain]
          exact Nat.le_of_lt (Text.length_takeWhile_lt hmem)
      · have hboth : ':' ∉ c :: text ++ more := by
          rw [List.mem_append, not_or]
          exact ⟨hmem, hnot ':' (by decide) (by decide)⟩
        rw [hplain, Text.takeWhile_of_not_mem hmem] at hhost
        rw [List.cons_append, hplain, ← List.cons_append, Text.takeWhile_of_not_mem hboth] at hotherHost
        exact host?_append_ne hne hmore hhost hotherHost

theorem splitUser_append (text : Text) (hmore : ∀ c ∈ more, IsFiller c) :
    (splitUser (text ++ more)).2.2 = (splitUser text).2.2 ++ more := by
  have hat : '@' ∉ more := fun h ↦ (hmore '@' h).ne (by decide) (by decide) rfl
  by_cases h : '@' ∈ text
  · have hall : ∀ c ∈ more.reverse, (c != '@') = true := fun c hc ↦
      bne_iff_ne.2 fun heq ↦ hat (heq ▸ List.mem_reverse.1 hc)
    simp [splitUser, h, List.takeWhile_append_of_pos hall]
  · simp [splitUser, h, hat]

/-! ## What is behind the scheme -/

/-- The text of the host and its port in what is behind a scheme. -/
def hostText (rest : Text) : Text :=
  (splitUser (rest.takeWhile fun c ↦ !endsAuthority c)).2.2

/-- The text of the path in what is behind a scheme. -/
def pathText (rest : Text) : Text :=
  ((rest.dropWhile fun c ↦ !endsAuthority c).takeWhile (· != '#')).takeWhile (· != '?')

/-- The address that what is behind a scheme makes with it. -/
def behind? (isSecure : Bool) (rest : Text) : Option Address :=
  (hostAndPort? isSecure (hostText rest)).map fun found ↦
    { isSecure
      user := (splitUser (rest.takeWhile fun c ↦ !endsAuthority c)).1
      password := (splitUser (rest.takeWhile fun c ↦ !endsAuthority c)).2.1
      host := found.1
      portNumber := found.2
      path := pathOf (pathText rest)
      query :=
        match ((rest.dropWhile fun c ↦ !endsAuthority c).takeWhile (· != '#')).dropWhile (· != '?') with
        | '?' :: query => some (percentEncode isEncodedInQuery query)
        | _ => none }

theorem read?_eq (text : Text) :
    read? text = (scheme? (clean text)).bind fun found ↦ behind? found.1 found.2 := by
  unfold read? behind? hostText pathText
  cases scheme? (clean text) with
  | none => rfl
  | some found =>
    simp only [Option.bind_eq_bind, Option.bind_some]
    cases hostAndPort? found.1 _ <;> rfl

/-- What is behind a scheme has a part for the host only, or there is a character that ends it. -/
theorem exists_authority (rest : Text) :
    (∀ c ∈ rest, endsAuthority c = false) ∨ ∃ authority c path, rest = authority ++ c :: path ∧
      (∀ c ∈ authority, endsAuthority c = false) ∧ endsAuthority c = true := by
  induction rest with
  | nil => exact .inl nofun
  | cons c rest ih =>
    by_cases hc : endsAuthority c = true
    · exact .inr ⟨[], c, rest, rfl, nofun, hc⟩
    rw [Bool.not_eq_true] at hc
    rcases ih with hall | ⟨authority, d, path, rfl, hauthority, hd⟩
    · exact .inl (List.forall_mem_cons.2 ⟨hc, hall⟩)
    · exact .inr ⟨c :: authority, d, path, rfl, List.forall_mem_cons.2 ⟨hc, hauthority⟩, hd⟩

section Parts

variable {authority path rest : Text} {c : Char}

theorem hostText_of_authority (h : ∀ c ∈ rest, endsAuthority c = false) :
    hostText rest = (splitUser rest).2.2 := by
  have hself : rest.takeWhile (fun c ↦ !endsAuthority c) = rest :=
    List.takeWhile_eq_self_iff.2 fun c hc ↦ by rw [h c hc]; rfl
  rw [hostText, hself]

theorem pathText_of_authority (h : ∀ c ∈ rest, endsAuthority c = false) : pathText rest = [] := by
  have hnone : rest.dropWhile (fun c ↦ !endsAuthority c) = [] :=
    List.dropWhile_eq_nil_iff.2 fun c hc ↦ by rw [h c hc]; rfl
  rw [pathText, hnone]
  rfl

variable (h : ∀ c ∈ authority, endsAuthority c = false) (hc : endsAuthority c = true)
include h hc

theorem hostText_append_cons (path : Text) :
    hostText (authority ++ c :: path) = (splitUser authority).2.2 := by
  have hall : ∀ c ∈ authority, (!endsAuthority c) = true := fun c hc ↦ by rw [h c hc]; rfl
  have htake : (c :: path).takeWhile (fun c ↦ !endsAuthority c) = [] := by simp [hc]
  rw [hostText, List.takeWhile_append_of_pos hall, htake, List.append_nil]

theorem pathText_append_cons (path : Text) :
    pathText (authority ++ c :: path) =
      ((c :: path).takeWhile (· != '#')).takeWhile (· != '?') := by
  have hall : ∀ c ∈ authority, (!endsAuthority c) = true := fun c hc ↦ by rw [h c hc]; rfl
  have hdrop : (c :: path).dropWhile (fun c ↦ !endsAuthority c) = c :: path := by simp [hc]
  rw [pathText, List.dropWhile_append_of_pos hall, hdrop]

theorem pathText_of_not_mem (hquery : '?' ∉ c :: path) (hfragment : '#' ∉ c :: path) :
    pathText (authority ++ c :: path) = c :: path := by
  rw [pathText_append_cons h hc, Text.takeWhile_of_not_mem hfragment, Text.takeWhile_of_not_mem hquery]

end Parts

theorem behind?_eq_some {rest : Text} {address : Address} (h : behind? isSecure rest = some address) :
    hostAndPort? isSecure (hostText rest) = some (address.host, address.portNumber) ∧
      address.path = pathOf (pathText rest) ∧ address.isSecure = isSecure := by
  obtain ⟨found, hfound, rfl⟩ := Option.map_eq_some_iff.1 h
  exact ⟨hfound, rfl, rfl⟩

theorem exists_behind? {rest host : Text} {number : Nat}
    (h : hostAndPort? isSecure (hostText rest) = some (host, number)) :
    ∃ address, behind? isSecure rest = some address ∧ address.host = host ∧
      address.portNumber = number ∧ address.path = pathOf (pathText rest) ∧
      address.isSecure = isSecure := by
  obtain ⟨address, haddress⟩ : ∃ address, behind? isSecure rest = some address :=
    ⟨_, by rw [behind?, h]; rfl⟩
  obtain ⟨hfound, hpath, hsecure⟩ := behind?_eq_some haddress
  rw [h] at hfound
  obtain ⟨hhost, hnumber⟩ := Prod.mk.inj (Option.some.inj hfound)
  exact ⟨address, haddress, hhost.symm, hnumber.symm, hpath, hsecure⟩

/-! ## Schemes -/

/-- Whether the address of a scheme is a secure one. -/
def secure? (name : Text) : Option Bool :=
  if name.map Char.toLower = "http".toList then some false
  else if name.map Char.toLower = "https".toList then some true
  else none

/-- The text without the slashes at its beginning. -/
def unslashed (text : Text) : Text :=
  text.dropWhile fun c ↦ c == '/' || c == '\\'

theorem scheme?_append_cons {name : Text} (h : ':' ∉ name) (rest : Text) :
    scheme? (name ++ ':' :: rest) = (secure? name).map fun isSecure ↦ (isSecure, unslashed rest) := by
  have hall : ∀ c ∈ name, (c != ':') = true := fun c hc ↦ bne_iff_ne.2 fun heq ↦ h (heq ▸ hc)
  have htake : (name ++ ':' :: rest).takeWhile (· != ':') = name := by
    rw [List.takeWhile_append_of_pos hall]
    simp
  have hdrop : (name ++ ':' :: rest).dropWhile (· != ':') = ':' :: rest := by
    rw [List.dropWhile_append_of_pos hall]
    simp
  have hmem : (name ++ ':' :: rest).contains ':' = true := by simp
  simp only [scheme?, htake, hdrop, hmem, secure?, unslashed]
  split
  · next hfalse => cases hfalse
  split
  · rfl
  split <;> rfl

theorem scheme?_of_not_mem (h : ':' ∉ text) : scheme? text = none := by
  simp [scheme?, h]

theorem unslashed_append {rest : Text} (h : unslashed rest ≠ []) (more : Text) :
    unslashed (rest ++ more) = unslashed rest ++ more := by
  unfold unslashed at h ⊢
  rw [List.dropWhile_append, if_neg (by simpa using h)]

theorem unslashed_replicate (rest : Text) (h : unslashed rest = []) (n : Nat) :
    unslashed (rest ++ List.replicate n '/') = [] := by
  unfold unslashed at h ⊢
  rw [List.dropWhile_append, h, List.isEmpty_nil, if_pos rfl, List.dropWhile_eq_nil_iff]
  intro c hc
  rw [List.eq_of_mem_replicate hc]
  rfl

/-- What is put behind a text with a scheme is put behind what follows the scheme. -/
theorem scheme?_append {rest : Text} (h : scheme? text = some (isSecure, rest)) (hne : rest ≠ [])
    (more : Text) : scheme? (text ++ more) = some (isSecure, rest ++ more) := by
  by_cases hmem : ':' ∈ text
  · obtain ⟨name, after, rfl, hname⟩ := List.eq_append_cons_of_mem hmem
    rw [scheme?_append_cons hname] at h
    obtain ⟨found, hfound, heq⟩ := Option.map_eq_some_iff.1 h
    obtain ⟨rfl, rfl⟩ := Prod.mk.inj heq
    rw [List.append_assoc, List.cons_append, scheme?_append_cons hname, hfound,
      unslashed_append hne more]
    rfl
  · rw [scheme?_of_not_mem hmem] at h
    cases h

/-- Slashes behind a text with a scheme are behind what follows the scheme, if anything does. -/
theorem exists_scheme? {rest : Text} {n : Nat}
    (h : scheme? (text ++ List.replicate n '/') = some (isSecure, rest)) (hne : rest ≠ []) :
    ∃ before, before ≠ [] ∧ scheme? text = some (isSecure, before) ∧
      rest = before ++ List.replicate n '/' := by
  by_cases hmem : ':' ∈ text
  · obtain ⟨name, after, rfl, hname⟩ := List.eq_append_cons_of_mem hmem
    rw [List.append_assoc, List.cons_append, scheme?_append_cons hname] at h
    obtain ⟨found, hfound, heq⟩ := Option.map_eq_some_iff.1 h
    obtain ⟨rfl, rfl⟩ := Prod.mk.inj heq
    have hafter : unslashed after ≠ [] := fun hnil ↦ hne (unslashed_replicate after hnil n)
    refine ⟨unslashed after, hafter, ?_, unslashed_append hafter _⟩
    rw [scheme?_append_cons hname, hfound]
    rfl
  · have hnot : ':' ∉ text ++ List.replicate n '/' := by simp [hmem]
    rw [scheme?_of_not_mem hnot] at h
    cases h

/-- A scheme begins with a visible character. -/
theorem scheme?_of_filler {c : Char} (h : IsFiller c) (rest : Text) : scheme? (c :: rest) = none := by
  have hfirst : c ≠ 'h' := h.ne (by decide) (by decide)
  by_cases hmem : ':' ∈ c :: rest
  · obtain ⟨name, after, hcons, hname⟩ := List.eq_append_cons_of_mem hmem
    rw [hcons, scheme?_append_cons hname]
    cases name with
    | nil => rfl
    | cons d name =>
      obtain ⟨rfl, -⟩ := List.cons.inj hcons
      simp [secure?, h.toLower_eq, hfirst]
  · exact scheme?_of_not_mem hmem

theorem suffix_of_scheme? {rest : Text} (h : scheme? text = some (isSecure, rest)) :
    rest <:+ text := by
  have hcolon : ':' ∈ text := by
    by_contra hnot
    rw [scheme?_of_not_mem hnot] at h
    cases h
  obtain ⟨name, after, rfl, hname⟩ := List.eq_append_cons_of_mem hcolon
  rw [scheme?_append_cons hname] at h
  obtain ⟨found, -, heq⟩ := Option.map_eq_some_iff.1 h
  obtain ⟨-, rfl⟩ := Prod.mk.inj heq
  have hafter : unslashed after <:+ after := List.dropWhile_suffix _
  exact (hafter.trans (List.suffix_cons ':' after)).trans (List.suffix_append name _)

/-- A query and a fragment begin behind the scheme. -/
theorem mem_of_scheme? {rest : Text} (h : scheme? text = some (isSecure, rest)) {c : Char}
    (hc : c = '?' ∨ c = '#') (hmem : c ∈ text) : c ∈ rest := by
  have hcolon : ':' ∈ text := by
    by_contra hnot
    rw [scheme?_of_not_mem hnot] at h
    cases h
  obtain ⟨name, after, rfl, hname⟩ := List.eq_append_cons_of_mem hcolon
  rw [scheme?_append_cons hname] at h
  obtain ⟨found, hfound, heq⟩ := Option.map_eq_some_iff.1 h
  obtain ⟨-, rfl⟩ := Prod.mk.inj heq
  have hlower : c.toLower = c := by rcases hc with rfl | rfl <;> rfl
  have hlowerName : c ∉ name := by
    intro hcn
    have hmap := List.mem_map_of_mem hcn (f := Char.toLower)
    unfold secure? at hfound
    split at hfound
    · next heq =>
      rw [heq, hlower] at hmap
      rcases hc with rfl | rfl <;> revert hmap <;> decide
    split at hfound
    · next heq =>
      rw [heq, hlower] at hmap
      rcases hc with rfl | rfl <;> revert hmap <;> decide
    · cases hfound
  have hafter : c ∈ after := by
    rw [List.mem_append, List.mem_cons] at hmem
    rcases hmem with hmem | rfl | hmem
    · exact absurd hmem hlowerName
    · rcases hc with hc | hc <;> cases hc
    · exact hmem
  rw [← List.takeWhile_append_dropWhile (p := fun c ↦ c == '/' || c == '\\') (l := after),
    List.mem_append] at hafter
  refine hafter.resolve_left fun hslash ↦ ?_
  have htrue := List.all_eq_true.1 List.all_takeWhile c hslash
  rcases hc with rfl | rfl <;> cases htrue

theorem behind?_nil : behind? isSecure [] = none := by
  cases isSecure <;> rfl

/-! ## What is put behind an address -/

section Behind

variable {rest tail : Text} {named sent : Address}

/-- Without a query, what is put behind an address and begins with a slash is put behind its path. -/
theorem exists_parts (hquery : '?' ∉ rest) (hfragment : '#' ∉ rest) :
    ∃ host path, ∀ more : Text, more.head? ∈ [none, some '/'] → '?' ∉ more → '#' ∉ more →
      hostText (rest ++ more) = host ∧ pathText (rest ++ more) = path ++ more := by
  rcases exists_authority rest with hall | ⟨authority, c, path, rfl, hauthority, hc⟩
  · refine ⟨(splitUser rest).2.2, [], fun more hhead hmoreQuery hmoreFragment ↦ ?_⟩
    cases more with
    | nil =>
      rw [List.append_nil]
      exact ⟨hostText_of_authority hall, pathText_of_authority hall⟩
    | cons d more =>
      obtain rfl : d = '/' := by simpa using hhead
      exact ⟨hostText_append_cons hall rfl more,
        pathText_of_not_mem hall rfl hmoreQuery hmoreFragment⟩
  · refine ⟨(splitUser authority).2.2, c :: path, fun more _ hmoreQuery hmoreFragment ↦ ?_⟩
    rw [List.mem_append, not_or] at hquery hfragment
    rw [List.append_assoc, List.cons_append]
    refine ⟨hostText_append_cons hauthority hc _, pathText_of_not_mem hauthority hc ?_ ?_⟩
    · rw [← List.cons_append, List.mem_append, not_or]
      exact ⟨hquery.2, hmoreQuery⟩
    · rw [← List.cons_append, List.mem_append, not_or]
      exact ⟨hfragment.2, hmoreFragment⟩

/-- What begins with a slash only makes the path longer. -/
theorem behind?_append (hquery : '?' ∉ rest) (hfragment : '#' ∉ rest) (htail : Plain tail)
    (htailQuery : '?' ∉ tail) (htailFragment : '#' ∉ tail) (slashes : Nat)
    (hnamed : behind? isSecure (rest ++ List.replicate slashes '/') = some named) :
    ∃ sent, behind? isSecure (rest ++ '/' :: tail) = some sent ∧
      sent.isSecure = named.isSecure ∧ sent.host = named.host ∧
      sent.portNumber = named.portNumber ∧
      ∃ path n, sent.path = path ++ '/' :: tail ∧ named.path = path ++ List.replicate n '/' := by
  obtain ⟨host, text, hparts⟩ := exists_parts hquery hfragment
  obtain ⟨path, happend, n, hpath⟩ := exists_pathOf_append text
  have hslashes (c : Char) (hc : c ≠ '/') : c ∉ List.replicate slashes '/' :=
    fun h ↦ hc (List.eq_of_mem_replicate h)
  have hhead : (List.replicate slashes '/').head? ∈ [none, some '/'] := by
    cases slashes <;> simp [List.replicate_succ]
  obtain ⟨hhostNamed, hpathNamed⟩ := hparts _ hhead (hslashes '?' (by decide)) (hslashes '#' (by decide))
  obtain ⟨hhostSent, hpathSent⟩ := hparts ('/' :: tail) (by simp) (by simpa using htailQuery)
    (by simpa using htailFragment)
  obtain ⟨hfound, hnamedPath, hsecure⟩ := behind?_eq_some hnamed
  rw [hhostNamed, ← hhostSent] at hfound
  obtain ⟨sent, hsent, hsentHost, hsentNumber, hsentPath, hsentSecure⟩ := exists_behind? hfound
  refine ⟨sent, hsent, hsentSecure.trans hsecure.symm, hsentHost, hsentNumber, path, ?_⟩
  rw [hsentPath, hpathSent, hnamedPath, hpathNamed, happend tail htail]
  cases slashes with
  | zero =>
    rw [List.replicate_zero, List.append_nil]
    exact ⟨n, rfl, hpath⟩
  | succ slashes =>
    refine ⟨slashes + 1, rfl, ?_⟩
    rw [List.replicate_succ, happend _ (plain_replicate slashes)]

/-- With something in between there is another host, or the path gets longer than that. -/
theorem behind?_append_ne (hquery : '?' ∉ rest) (hfragment : '#' ∉ rest) (hne : more ≠ [])
    (hmore : ∀ c ∈ more, IsFiller c) (htail : Plain tail) (htailQuery : '?' ∉ tail)
    (htailFragment : '#' ∉ tail) (hnamed : behind? isSecure rest = some named)
    (hsent : behind? isSecure (rest ++ more ++ '/' :: tail) = some sent) :
    sent.host ≠ named.host ∨ named.path.length + ('/' :: tail).length < sent.path.length := by
  have hnot (d : Char) (hlow : 0x20 < d.toNat) (hhigh : d.toNat ≤ 0x7F) : d ∉ more :=
    fun hd ↦ (hmore d hd).ne hlow hhigh rfl
  have hends : ∀ c ∈ more, endsAuthority c = false := by
    intro c hc
    have hfiller := hmore c hc
    simp [endsAuthority, hfiller.ne (d := '/') (by decide) (by decide),
      hfiller.ne (d := '\\') (by decide) (by decide), hfiller.ne (d := '?') (by decide) (by decide),
      hfiller.ne (d := '#') (by decide) (by decide)]
  obtain ⟨hfoundNamed, hpathNamed, -⟩ := behind?_eq_some hnamed
  obtain ⟨hfoundSent, hpathSent, -⟩ := behind?_eq_some hsent
  rcases exists_authority rest with hall | ⟨authority, c, path, rfl, hauthority, hc⟩
  · left
    have hboth : ∀ c ∈ rest ++ more, endsAuthority c = false :=
      List.forall_mem_append.2 ⟨hall, hends⟩
    rw [hostText_append_cons hboth rfl, splitUser_append rest hmore] at hfoundSent
    rw [hostText_of_authority hall] at hfoundNamed
    exact hostAndPort?_append_ne hne hmore hfoundNamed hfoundSent
  · right
    rw [List.mem_append, not_or] at hquery hfragment
    have hwhole : authority ++ c :: path ++ more ++ '/' :: tail =
        authority ++ c :: (path ++ more ++ '/' :: tail) := by simp
    have hmem (d : Char) (hd : 0x20 < d.toNat) (hd' : d.toNat ≤ 0x7F) (hslash : d ≠ '/')
        (hpath : d ∉ c :: path) (htail : d ∉ tail) : d ∉ c :: (path ++ more ++ '/' :: tail) := by
      rw [List.mem_cons, not_or] at hpath
      simp [hpath, hnot d hd hd', hslash, htail]
    rw [pathText_of_not_mem hauthority hc hquery.2 hfragment.2] at hpathNamed
    rw [hwhole, pathText_of_not_mem hauthority hc
      (hmem '?' (by decide) (by decide) (by decide) hquery.2 htailQuery)
      (hmem '#' (by decide) (by decide) (by decide) hfragment.2 htailFragment)] at hpathSent
    rw [hpathNamed, hpathSent]
    refine length_pathOf_lt hne (fun d hd hmem ↦ ?_) htail
    simp only [List.mem_cons, List.not_mem_nil, or_false] at hmem
    rcases hmem with rfl | rfl | rfl | rfl | rfl | rfl | rfl <;>
      exact hnot _ (by decide) (by decide) hd

/-- Behind a query or a fragment nothing changes the path. -/
theorem pathText_append (h : '?' ∈ rest ∨ '#' ∈ rest) (more : Text) :
    pathText (rest ++ more) = pathText rest := by
  rcases exists_authority rest with hall | ⟨authority, c, path, rfl, hauthority, hc⟩
  · rcases h with h | h <;> cases hall _ h
  · have hpath : '?' ∈ c :: path ∨ '#' ∈ c :: path := by
      have hnot (d : Char) (hd : endsAuthority d = true) : d ∉ authority := by
        intro hmem
        rw [hauthority d hmem] at hd
        cases hd
      simpa [hnot '?' rfl, hnot '#' rfl] using h
    rw [List.append_assoc, List.cons_append, pathText_append_cons hauthority hc,
      pathText_append_cons hauthority hc, ← List.cons_append]
    by_cases hfragment : '#' ∈ c :: path
    · rw [Text.takeWhile_append_of_mem hfragment]
    · have hquery := hpath.resolve_right hfragment
      have hall : ∀ d ∈ c :: path, (d != '#') = true := fun d hd ↦
        bne_iff_ne.2 fun heq ↦ hfragment (heq ▸ hd)
      rw [List.takeWhile_append_of_pos hall, Text.takeWhile_append_of_mem hquery,
        Text.takeWhile_of_not_mem hfragment]

end Behind

end CodeRepair.Web.Address
