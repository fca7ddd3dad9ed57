import CodeRepair.Chat.Client
import CodeRepair.Proofs.Text.Trimming
import CodeRepair.Proofs.Web.Address

/-!
# Where requests go

A configuration is checked without the white space around its endpoint, but the address of the service
is made of the endpoint as it is written.  So it matters what is around the endpoint: what stands in
front of it may keep requests from being sent, and what stands behind it becomes part of the host or of
the path.  This module says exactly when requests go where the endpoint says.
-/

namespace CodeRepair.Chat

open Text Web

/-- The path of the service below an endpoint. -/
def servicePath : Text :=
  "/chat/completions".toList

/-! ## Parts of an endpoint -/

/-- White space, or a character that addresses do not keep at their ends. -/
def isPadding (c : Char) : Bool :=
  isBlank c || c.toNat ≤ 0x20

theorem isFiller_of_isPadding {c : Char} (h : isPadding c = true) : IsFiller c := by
  simp only [isPadding, isBlank, Bool.or_eq_true, Bool.and_eq_true, beq_iff_eq,
    decide_eq_true_eq] at h
  unfold IsFiller
  omega

/-- What an endpoint is made of: white space, a text from a letter to a visible character, and what is
behind that. -/
structure Parts (front body tail : Text) : Prop where
  front : IsBlank front
  head : body.head? = some 'h'
  last : ∀ c ∈ body.getLast?, isPadding c = false
  tail : ∀ c ∈ tail, isPadding c = true

theorem exists_parts {endpoint : Text} (h : Config.isWebAddress endpoint = true) :
    ∃ front body tail, endpoint = front ++ body ++ tail ∧ Parts front body tail := by
  have hhead : (trim endpoint).head? = some 'h' := by
    rw [Config.isWebAddress, Bool.or_eq_true, startsWith_iff, startsWith_iff] at h
    rcases h with ⟨rest, h⟩ | ⟨rest, h⟩ <;>
      · rw [← h]
        rfl
  have hinside : (endpoint.dropWhile isBlank).head? = some 'h' := by
    obtain ⟨rest, hrest⟩ := List.rdropWhile_prefix isBlank (endpoint.dropWhile isBlank)
    rw [← trim_eq_rdropWhile] at hrest
    rw [← hrest, List.head?_append, hhead]
    rfl
  have hne : (endpoint.dropWhile isBlank).rdropWhile isPadding ≠ [] := by
    rw [Ne, List.rdropWhile_eq_nil_iff]
    intro hall
    have hletter := hall 'h' (List.mem_of_head? hinside)
    cases hletter
  refine ⟨endpoint.takeWhile isBlank, (endpoint.dropWhile isBlank).rdropWhile isPadding,
    (endpoint.dropWhile isBlank).rtakeWhile isPadding, ?_, ?_, ?_, ?_, ?_⟩
  · rw [List.append_assoc, List.rdropWhile_append_rtakeWhile, List.takeWhile_append_dropWhile]
  · exact List.all_eq_true.1 List.all_takeWhile
  · obtain ⟨rest, hrest⟩ := List.rdropWhile_prefix isPadding (endpoint.dropWhile isBlank)
    rw [← hrest, List.head?_append_of_ne_nil _ hne] at hinside
    exact hinside
  · intro c hc
    have hlast := List.rdropWhile_last_not isPadding _ hne
    rw [List.getLast?_eq_some_getLast hne] at hc
    rw [Option.some.inj hc] at hlast
    exact Bool.eq_false_iff.2 hlast
  · exact fun c hc ↦ List.mem_rtakeWhile_imp hc

/-- What addresses drop at their ends. -/
def isOuter (c : Char) : Bool :=
  c.toNat ≤ 0x20

/-- A text without the tabs and line ends that addresses drop everywhere. -/
def kept (text : Text) : Text :=
  text.filter fun c ↦ c != '\t' && c != '\n' && c != '\r'

theorem kept_append (text more : Text) : kept (text ++ more) = kept text ++ kept more :=
  List.filter_append text more

theorem kept_replicate (n : Nat) : kept (List.replicate n '/') = List.replicate n '/' := by
  simp [kept]

theorem kept_eq_nil_iff {text : Text} :
    kept text = [] ↔ ∀ c ∈ text, c = '\t' ∨ c = '\n' ∨ c = '\r' := by
  simp only [kept, List.filter_eq_nil_iff, Bool.and_eq_true, bne_iff_ne]
  grind

theorem clean_eq (text : Text) :
    Address.clean text = kept ((text.dropWhile isOuter).rdropWhile isOuter) :=
  rfl

/-- What does not begin with an outer character is cleaned at its end and inside only. -/
theorem clean_append {before text : Text} (hbefore : ∀ c ∈ before, isOuter c = true)
    (h : text.head? = some 'h') : Address.clean (before ++ text) = kept (text.rdropWhile isOuter) := by
  cases text with
  | nil => cases h
  | cons c text =>
    obtain rfl : c = 'h' := by simpa using h
    have hself : ('h' :: text).dropWhile isOuter = 'h' :: text := by simp [isOuter]
    rw [clean_eq, List.dropWhile_append_of_pos hbefore, hself]

/-- Of what is behind an endpoint, trimming and cleaning drop something that addresses do not drop
everywhere, unless there is no such thing. -/
theorem exists_tail_eq_append {tail : Text} (h : ∀ c ∈ tail, isPadding c = true) :
    ∃ dropped, tail = (tail.rdropWhile isBlank).rdropWhile isOuter ++ dropped ∧
      (kept dropped = [] → kept tail = []) := by
  have hsplit := List.rdropWhile_append_rtakeWhile (p := isBlank) (l := tail)
  have hsplit' := List.rdropWhile_append_rtakeWhile (p := isOuter) (l := tail.rdropWhile isBlank)
  generalize hblank : tail.rtakeWhile isBlank = blank at hsplit
  generalize houter : (tail.rdropWhile isBlank).rtakeWhile isOuter = outer at hsplit'
  generalize hstays : (tail.rdropWhile isBlank).rdropWhile isOuter = stays at hsplit'
  have hwhole : tail = stays ++ (outer ++ blank) := by
    rw [← List.append_assoc, hsplit', hsplit]
  refine ⟨outer ++ blank, hwhole, fun hdropped ↦ ?_⟩
  have hends := kept_eq_nil_iff.1 hdropped
  suffices hnil : stays = [] by
    rw [hwhole, hnil, List.nil_append, hdropped]
  by_contra hne
  have hlast (c : Char) (hc : c ∈ (tail.rdropWhile isBlank).getLast?) : isBlank c = false := by
    have hnil : tail.rdropWhile isBlank ≠ [] := by
      rw [← hsplit']
      exact List.append_ne_nil_of_left_ne_nil hne outer
    rw [List.getLast?_eq_some_getLast hnil] at hc
    rw [← Option.some.inj hc]
    exact Bool.eq_false_iff.2 (List.rdropWhile_last_not isBlank tail hnil)
  rcases List.eq_nil_or_concat outer with rfl | ⟨front, c, rfl⟩
  · -- What stays ends in white space, which trimming drops if nothing is behind it.
    have hpadding := h (stays.getLast hne) (hwhole ▸ List.mem_append_left _ (List.getLast_mem hne))
    have hlastOuter : isOuter (stays.getLast hne) = false := by
      have hne' : (tail.rdropWhile isBlank).rdropWhile isOuter ≠ [] := by rwa [hstays]
      have hnot := List.rdropWhile_last_not isOuter (tail.rdropWhile isBlank) hne'
      simp only [hstays] at hnot
      exact Bool.eq_false_iff.2 hnot
    have hnotBlank := hlast (stays.getLast hne) (by
      rw [← hsplit', List.append_nil]
      exact List.getLast?_eq_some_getLast hne)
    rw [isPadding, hnotBlank, Bool.false_or] at hpadding
    rw [isOuter, hpadding] at hlastOuter
    cases hlastOuter
  · -- Behind it there is a tab or a line end, which trimming drops as well.
    have hnotBlank := hlast c (by
      rw [← hsplit', List.concat_eq_append, ← List.append_assoc]
      exact List.getLast?_concat)
    have hend := hends c (by simp)
    rcases hend with rfl | rfl | rfl <;> cases hnotBlank

theorem dropSlashes_eq (text : Text) : dropSlashes text = text.rdropWhile (· == '/') :=
  rfl

namespace Parts

variable {front body tail : Text} (h : Parts front body tail)
include h

theorem head?_append (more : Text) : (body ++ more).head? = some 'h' := by
  rw [List.head?_append, h.head]
  rfl

theorem last_of {p : Char → Bool} (hp : ∀ c, p c = true → isPadding c = true) :
    ∀ c ∈ body.getLast?, p c = false := by
  intro c hc
  rw [Bool.eq_false_iff]
  intro hpc
  have hlast := h.last c hc
  rw [hp c hpc] at hlast
  cases hlast

theorem trim_eq : trim (front ++ body ++ tail) = body ++ tail.rdropWhile isBlank := by
  have hhead := h.head?_append tail
  have hself : (body ++ tail).dropWhile isBlank = body ++ tail := by
    cases hcons : body ++ tail with
    | nil => rfl
    | cons c rest =>
      obtain rfl : c = 'h' := by simpa [hcons] using hhead
      rfl
  have hblank : ∀ c ∈ body.getLast?, isBlank c = false := h.last_of fun c hc ↦ by simp [isPadding, hc]
  rw [List.append_assoc, trim_append_left h.front, trim_eq_rdropWhile, hself,
    rdropWhile_append_of_last hblank]

/-- What an address is read from if the endpoint is taken for one. -/
theorem clean_trim : Address.clean (trim (front ++ body ++ tail)) =
    kept body ++ kept ((tail.rdropWhile isBlank).rdropWhile isOuter) := by
  have houter : ∀ c ∈ body.getLast?, isOuter c = false :=
    h.last_of fun c hc ↦ by simp_all [isPadding, isOuter]
  have hnone : ∀ c ∈ ([] : Text), isOuter c = true := nofun
  have hclean := clean_append hnone (h.head?_append (tail.rdropWhile isBlank))
  rw [List.nil_append] at hclean
  rw [h.trim_eq, hclean, rdropWhile_append_of_last houter, kept_append]

theorem rdropWhile_ne_nil : (body ++ tail).rdropWhile (· == '/') ≠ [] := by
  rw [Ne, List.rdropWhile_eq_nil_iff]
  intro hall
  have hletter := hall 'h' (List.mem_of_head? (h.head?_append tail))
  cases hletter

theorem dropSlashes_eq_append :
    dropSlashes (front ++ body ++ tail) = front ++ (body ++ tail).rdropWhile (· == '/') := by
  rw [List.append_assoc, dropSlashes_eq, rdropWhile_append_of_ne_nil _ _ h.rdropWhile_ne_nil]

theorem addressOf_eq_append : addressOf (front ++ body ++ tail) =
    front ++ ((body ++ tail).rdropWhile (· == '/') ++ servicePath) := by
  rw [← List.append_assoc, ← h.dropSlashes_eq_append]
  rfl

/-- What the address of the service is read from. -/
theorem clean_addressOf (hfront : ∀ c ∈ front, isOuter c = true) :
    Address.clean (addressOf (front ++ body ++ tail)) =
      kept ((body ++ tail).rdropWhile (· == '/')) ++ servicePath := by
  have hhead : ((body ++ tail).rdropWhile (· == '/') ++ servicePath).head? = some 'h' := by
    have hwhole := h.head?_append tail
    obtain ⟨rest, hrest⟩ := List.rdropWhile_prefix (· == '/') (body ++ tail)
    rw [← hrest, List.head?_append_of_ne_nil _ h.rdropWhile_ne_nil] at hwhole
    rw [List.head?_append_of_ne_nil _ h.rdropWhile_ne_nil, hwhole]
  have hlast : ∀ c ∈ ((body ++ tail).rdropWhile (· == '/') ++ servicePath).getLast?,
      isOuter c = false := by
    intro c hc
    have hend : servicePath.getLast? = some 's' := rfl
    rw [List.getLast?_append, hend, Option.some_or] at hc
    rw [← Option.some.inj hc]
    rfl
  rw [h.addressOf_eq_append, clean_append hfront hhead]
  have hcut := rdropWhile_append_of_last hlast []
  rw [List.append_nil, List.rdropWhile_nil, List.append_nil] at hcut
  rw [hcut, kept_append]
  rfl

theorem takeWhile_eq : (front ++ body ++ tail).takeWhile isBlank = front := by
  have hhead := h.head?_append tail
  have hnone : (body ++ tail).takeWhile isBlank = [] := by
    cases hcons : body ++ tail with
    | nil => rfl
    | cons c rest =>
      obtain rfl : c = 'h' := by simpa [hcons] using hhead
      rfl
  rw [List.append_assoc, List.takeWhile_append_of_pos h.front, hnone, List.append_nil]

theorem rtakeWhile_eq : (front ++ body ++ tail).rtakeWhile isPadding = tail := by
  have hne : body ≠ [] := by
    rintro rfl
    cases h.head
  have hfront : (front ++ body).reverse.takeWhile isPadding = [] := by
    have hlast := h.last _ (List.getLast?_eq_some_getLast hne)
    rw [List.reverse_append, ← List.dropLast_concat_getLast hne, List.reverse_append]
    simp [hlast]
  have htail : ∀ c ∈ tail.reverse, isPadding c = true := fun c hc ↦ h.tail c (List.mem_reverse.1 hc)
  rw [List.rtakeWhile, List.reverse_append, List.takeWhile_append_of_pos htail, hfront,
    List.append_nil, List.reverse_reverse]

/-- With something in front of the endpoint that addresses keep there, no request is sent. -/
theorem read?_addressOf_of_front {c : Char} (hc : c ∈ front) (houter : isOuter c = false) :
    Address.read? (addressOf (front ++ body ++ tail)) = none := by
  have hne : front.dropWhile isOuter ≠ [] := by
    rw [Ne, List.dropWhile_eq_nil_iff]
    intro hall
    rw [hall c hc] at houter
    cases houter
  obtain ⟨d, rest, hcons⟩ := List.exists_cons_of_ne_nil hne
  have hd : isOuter d = false := by
    have hnot := List.head?_dropWhile_not isOuter front
    rw [hcons] at hnot
    simpa using hnot
  have hblank : isBlank d = true := by
    refine h.front d ((List.dropWhile_sublist isOuter).subset ?_)
    rw [hcons]
    exact List.mem_cons_self
  have hkept (more : Text) : kept (d :: more) = d :: kept more := by
    have hne (e : Char) (he : isOuter e = true) : d ≠ e := by
      rintro rfl
      rw [he] at hd
      cases hd
    simp [kept, hne '\t' rfl, hne '\n' rfl, hne '\r' rfl]
  obtain ⟨more, hclean⟩ : ∃ more, Address.clean (addressOf (front ++ body ++ tail)) = d :: more := by
    have hfirst : ∀ e ∈ [d].getLast?, isOuter e = false := by
      intro e he
      rwa [← Option.some.inj he]
    have hcut := rdropWhile_append_of_last hfirst
      (rest ++ ((body ++ tail).rdropWhile (· == '/') ++ servicePath))
    rw [h.addressOf_eq_append, clean_eq, List.dropWhile_append, if_neg (by simpa using hne), hcons,
      List.cons_append, ← List.singleton_append, hcut, List.singleton_append, hkept]
    exact ⟨_, rfl⟩
  have hfiller : IsFiller d := isFiller_of_isPadding (by simp [isPadding, hblank])
  rw [Address.read?_eq, hclean, Address.scheme?_of_filler hfiller]
  rfl

theorem mem_kept_iff {c : Char} (hc : c = '?' ∨ c = '#') :
    (c ∈ kept body ↔ c ∈ front ++ body ++ tail) ∧ c ∉ kept tail := by
  have hnotFront : c ∉ front := fun hmem ↦ by
    have hblank := h.front c hmem
    rcases hc with rfl | rfl <;> cases hblank
  have hnotTail : c ∉ tail := fun hmem ↦ by
    have hpadding := h.tail c hmem
    rcases hc with rfl | rfl <;> cases hpadding
  refine ⟨?_, fun hmem ↦ hnotTail (List.mem_filter.1 hmem).1⟩
  rcases hc with rfl | rfl <;> simp [kept, hnotFront, hnotTail]

/-- What is behind the endpoint stays in the address of the service as a whole, unless addresses drop
it everywhere; without anything behind it the endpoint loses its last slashes instead. -/
theorem exists_cleaned (hfront : ∀ c ∈ front, isOuter c = true) :
    ∃ start more slashes,
      Address.clean (trim (front ++ body ++ tail)) = start ++ List.replicate slashes '/' ∧
      Address.clean (addressOf (front ++ body ++ tail)) = start ++ more ++ servicePath ∧
      (∀ c ∈ more, IsFiller c) ∧ (more ≠ [] → slashes = 0) ∧ (more = [] ↔ kept tail = []) ∧
      ∀ c, c = '?' ∨ c = '#' → (c ∈ start ↔ c ∈ front ++ body ++ tail) := by
  rw [h.clean_trim, h.clean_addressOf hfront]
  by_cases hempty : tail = []
  · have hslashes : body.rtakeWhile (· == '/') =
        List.replicate (body.rtakeWhile (· == '/')).length '/' := by
      rw [List.eq_replicate_iff]
      exact ⟨rfl, fun c hc ↦ by simpa using List.mem_rtakeWhile_imp hc⟩
    have hsplit : kept body = kept (body.rdropWhile (· == '/')) ++
        List.replicate (body.rtakeWhile (· == '/')).length '/' := by
      rw [← kept_replicate, ← kept_append, ← hslashes, List.rdropWhile_append_rtakeWhile]
    refine ⟨kept (body.rdropWhile (· == '/')), [], (body.rtakeWhile (· == '/')).length, ?_, ?_, nofun,
      fun hne ↦ absurd rfl hne, ?_, fun c hc ↦ ?_⟩
    · rw [← hsplit, hempty]
      simp [kept]
    · rw [hempty, List.append_nil, List.append_nil]
    · simp [hempty, kept]
    · rw [← (h.mem_kept_iff hc).1, hsplit, List.mem_append]
      refine ⟨.inl, fun hor ↦ hor.resolve_right fun hslash ↦ ?_⟩
      rw [List.eq_of_mem_replicate hslash] at hc
      rcases hc with hc | hc <;> cases hc
  · obtain ⟨dropped, htail, hdropped⟩ := exists_tail_eq_append h.tail
    generalize (tail.rdropWhile isBlank).rdropWhile isOuter = stays at htail
    have hcut : (body ++ tail).rdropWhile (· == '/') = body ++ tail := by
      rw [List.rdropWhile_eq_self_iff]
      intro hne hslash
      rw [List.getLast_append_of_ne_nil _ hempty] at hslash
      have hpadding := h.tail _ (List.getLast_mem hempty)
      rw [beq_iff_eq.1 hslash] at hpadding
      cases hpadding
    refine ⟨kept body ++ kept stays, kept dropped, 0, ?_, ?_, ?_, fun _ ↦ rfl, ?_, fun c hc ↦ ?_⟩
    · rw [List.replicate_zero, List.append_nil]
    · have hkept : kept tail = kept stays ++ kept dropped := by rw [htail, kept_append]
      simp only [hcut, kept_append, hkept, List.append_assoc]
    · intro c hc
      have hmem := (List.mem_filter.1 hc).1
      exact isFiller_of_isPadding (h.tail c (htail ▸ List.mem_append_right _ hmem))
    · refine ⟨hdropped, fun hkept ↦ ?_⟩
      rw [htail, kept_append] at hkept
      exact (List.append_eq_nil_iff.1 hkept).2
    · obtain ⟨hbody, hnotTail⟩ := h.mem_kept_iff hc
      rw [htail, kept_append, List.mem_append, not_or] at hnotTail
      rw [List.mem_append, ← hbody]
      exact ⟨fun hor ↦ hor.resolve_right hnotTail.1, .inl⟩

end Parts

/-! ## Slashes at the end -/

theorem dropSlashes_append_replicate (text : Text) (n : Nat) :
    dropSlashes (text ++ List.replicate n '/') = dropSlashes text := by
  have hall : ∀ c ∈ (List.replicate n '/').reverse, (c == '/') = true := fun c hc ↦ by
    rw [List.eq_of_mem_replicate (List.mem_reverse.1 hc)]
    rfl
  rw [dropSlashes, List.reverse_append, List.dropWhile_append_of_pos hall, ← dropSlashes]

theorem length_dropSlashes_le (text : Text) : (dropSlashes text).length ≤ text.length :=
  (List.rdropWhile_prefix (· == '/') text).length_le

theorem dropSlashes_dropSlashes (text : Text) : dropSlashes (dropSlashes text) = dropSlashes text :=
  List.rdropWhile_idempotent (· == '/') text

theorem dropSlashes_eq_self_iff {text : Text} : dropSlashes text = text ↔ ¬ ['/'] <:+ text := by
  rw [dropSlashes_eq, List.rdropWhile_eq_self_iff]
  rcases List.eq_nil_or_concat text with rfl | ⟨front, c, rfl⟩
  · simp
  · simp [List.concat_eq_append, List.singleton_suffix_iff_getLast?_eq_some]

/-- A path with the path of the service below it has an empty segment there if it ends in a slash. -/
theorem slash_suffix_iff {path : Text} :
    '/' :: servicePath <:+ path ++ servicePath ↔ dropSlashes path ≠ path := by
  rw [Ne, dropSlashes_eq_self_iff, not_not]
  constructor
  · rintro ⟨front, hfront⟩
    rw [← List.singleton_append, ← List.append_assoc] at hfront
    exact ⟨front, List.append_cancel_right hfront⟩
  · rintro ⟨front, rfl⟩
    exact ⟨front, by simp⟩

/-- No path is the path of the service below itself. -/
theorem ne_dropSlashes_append_servicePath (path : Text) : path ≠ dropSlashes path ++ servicePath := by
  intro h
  have hself : dropSlashes path = path := by
    rw [dropSlashes_eq_self_iff]
    rintro ⟨front, hfront⟩
    have hend : servicePath.getLast? = some 's' := rfl
    have hlast := congrArg List.getLast? (hfront.trans h)
    rw [List.getLast?_concat, List.getLast?_append, hend, Option.some_or] at hlast
    exact absurd (Option.some.inj hlast) (by decide)
  have hlength := congrArg List.length h
  have hservice : servicePath.length = 17 := rfl
  rw [hself, List.length_append] at hlength
  omega

/-! ## Requests -/

/-- A request of a client goes where an endpoint says: to the host and port that the endpoint names
without the white space around it, and to the path of the service below its path. -/
def Client.Follows (client : Client) (endpoint : Text) (request : Request) : Prop :=
  ∃ named sent, Address.read? (trim endpoint) = some named ∧
    client.webRequest? request = some sent ∧ sent.address.isSecure = named.isSecure ∧
    sent.address.host = named.host ∧ sent.address.portNumber = named.portNumber ∧
    sent.address.path = dropSlashes named.path ++ servicePath

/-- What an endpoint must be like for requests to go where it says: it names an address, without a
query or a fragment; the white space in front of it is that of ASCII; and behind it there is none but
tabs and line ends. -/
structure Clear (endpoint : Text) : Prop where
  named : (Address.read? (trim endpoint)).isSome = true
  query : '?' ∉ endpoint
  fragment : '#' ∉ endpoint
  front : ∀ c ∈ endpoint.takeWhile isBlank, c.toNat ≤ 0x20
  back : ∀ c ∈ endpoint.rtakeWhile isPadding, c = '\t' ∨ c = '\n' ∨ c = '\r'

theorem plain_completions : Address.Plain "chat/completions".toList := by
  intro segments
  have hsegments : Address.segmentsFrom segments
      (Text.pieces '/' (Address.slashed "chat/completions".toList)) =
        segments ++ ["chat".toList] ++ ["completions".toList] := rfl
  rw [hsegments, List.append_assoc]
  rfl

theorem read?_of_append {start : Text} {slashes : Nat} {named : Address}
    (h : (Address.scheme? (start ++ List.replicate slashes '/')).bind
      (fun found ↦ Address.behind? found.1 found.2) = some named) :
    ∃ isSecure rest, Address.scheme? start = some (isSecure, rest) ∧
      Address.behind? isSecure (rest ++ List.replicate slashes '/') = some named ∧
      ∀ more, (Address.scheme? (start ++ more)).bind
        (fun found ↦ Address.behind? found.1 found.2) = Address.behind? isSecure (rest ++ more) := by
  obtain ⟨⟨isSecure, whole⟩, hscheme, hbehind⟩ := Option.bind_eq_some_iff.1 h
  have hne : whole ≠ [] := by
    rintro rfl
    rw [Address.behind?_nil] at hbehind
    cases hbehind
  obtain ⟨rest, hrest, hstart, rfl⟩ := Address.exists_scheme? hscheme hne
  refine ⟨isSecure, rest, hstart, hbehind, fun more ↦ ?_⟩
  rw [Address.scheme?_append hstart hrest]
  rfl

theorem webRequest?_eq_some {client : Client} {request : Request} {sent : Web.Request}
    (h : client.webRequest? request = some sent) : Address.read? client.address = some sent.address := by
  obtain ⟨address, haddress, rfl⟩ := Option.map_eq_some_iff.1 h
  exact haddress

theorem exists_webRequest? {client : Client} {address : Address}
    (h : Address.read? client.address = some address) (request : Request) :
    ∃ sent, client.webRequest? request = some sent ∧ sent.address = address := by
  rw [Client.webRequest?, h]
  exact ⟨_, rfl, rfl⟩

section

variable {front body tail : Text} (hparts : Parts front body tail)
  (hfront : ∀ c ∈ front, isOuter c = true) {client : Client}
  (hclient : client.address = addressOf (front ++ body ++ tail)) {request : Request}
include hparts hfront hclient

theorem clear_of_follows (h : client.Follows (front ++ body ++ tail) request) :
    Clear (front ++ body ++ tail) ∧ ∀ sent, client.webRequest? request = some sent →
      ¬ '/' :: servicePath <:+ sent.address.path := by
  obtain ⟨start, more, slashes, htrim, haddress, hfiller, hslashes, hmore, hmem⟩ :=
    hparts.exists_cleaned hfront
  obtain ⟨named, sent, hnamed, hsent, -, hhost, -, hpath⟩ := h
  have hread := webRequest?_eq_some hsent
  have hsome : (Address.read? (trim (front ++ body ++ tail))).isSome = true := by rw [hnamed]; rfl
  rw [Address.read?_eq, htrim] at hnamed
  obtain ⟨isSecure, rest, hstart, hbehind, hbehindMore⟩ := read?_of_append hnamed
  rw [hclient, Address.read?_eq, haddress, List.append_assoc, hbehindMore] at hread
  -- behind a question mark or a number sign nothing gets into the path
  have hplain (c : Char) (hc : c = '?' ∨ c = '#') : c ∉ rest := by
    intro hcr
    have hor : '?' ∈ rest ∨ '#' ∈ rest := by
      rcases hc with rfl | rfl
      · exact .inl hcr
      · exact .inr hcr
    rw [(Address.behind?_eq_some hread).2.1, (Address.behind?_eq_some hbehind).2.1,
      Address.pathText_append hor, Address.pathText_append hor] at hpath
    exact ne_dropSlashes_append_servicePath _ hpath
  have hnone (c : Char) (hc : c = '?' ∨ c = '#') : c ∉ front ++ body ++ tail := fun hcm ↦
    hplain c hc (Address.mem_of_scheme? hstart hc ((hmem c hc).2 hcm))
  -- what is left of the white space behind would change the host or make the path longer
  have hnil : more = [] := by
    by_contra hne
    rw [hslashes hne, List.replicate_zero, List.append_nil] at hbehind
    rw [← List.append_assoc] at hread
    rcases Address.behind?_append_ne (hplain '?' (.inl rfl)) (hplain '#' (.inr rfl)) hne hfiller
      plain_completions (by decide) (by decide) hbehind hread with hother | hlonger
    · exact hother hhost
    · have hshort := length_dropSlashes_le named.path
      have hlength : sent.address.path.length =
          (dropSlashes named.path).length + servicePath.length := by
        rw [hpath, List.length_append]
      have hservice : ('/' :: "chat/completions".toList).length = servicePath.length := rfl
      omega
  refine ⟨⟨hsome, hnone '?' (.inl rfl), hnone '#' (.inr rfl), ?_, ?_⟩, fun other hother ↦ ?_⟩
  · rw [hparts.takeWhile_eq]
    exact fun c hc ↦ by simpa [isOuter] using hfront c hc
  · rw [hparts.rtakeWhile_eq]
    exact kept_eq_nil_iff.1 (hmore.1 hnil)
  · obtain rfl : other = sent := Option.some.inj (hother.symm.trans hsent)
    rw [hpath, slash_suffix_iff, not_not, dropSlashes_dropSlashes]

theorem follows_of_clear (h : Clear (front ++ body ++ tail))
    (hslash : ∀ sent, client.webRequest? request = some sent →
      ¬ '/' :: servicePath <:+ sent.address.path) :
    client.Follows (front ++ body ++ tail) request := by
  obtain ⟨start, more, slashes, htrim, haddress, -, -, hmore, hmem⟩ := hparts.exists_cleaned hfront
  obtain ⟨hsome, hquery, hfragment, -, hback⟩ := h
  obtain ⟨named, hnamed⟩ := Option.isSome_iff_exists.1 hsome
  rw [hparts.rtakeWhile_eq] at hback
  obtain rfl : more = [] := hmore.2 (kept_eq_nil_iff.2 hback)
  have hread := hnamed
  rw [Address.read?_eq, htrim] at hread
  obtain ⟨isSecure, rest, hstart, hbehind, hbehindMore⟩ := read?_of_append hread
  have hplain (c : Char) (hc : c = '?' ∨ c = '#') (hnot : c ∉ front ++ body ++ tail) : c ∉ rest :=
    fun hcr ↦ hnot ((hmem c hc).1 ((Address.suffix_of_scheme? hstart).subset hcr))
  obtain ⟨address, hsent, hsecure, hhost, hnumber, path, n, hsentPath, hnamedPath⟩ :=
    Address.behind?_append (hplain '?' (.inl rfl) hquery) (hplain '#' (.inr rfl) hfragment)
      plain_completions (by decide) (by decide) slashes hbehind
  have hclientRead : Address.read? client.address = some address := by
    rw [hclient, Address.read?_eq, haddress, List.append_nil, hbehindMore]
    exact hsent
  obtain ⟨sent, hwebRequest, rfl⟩ := exists_webRequest? hclientRead request
  have hservice : sent.address.path = path ++ servicePath := hsentPath
  have hcut : dropSlashes path = path := by
    have hnot := hslash sent hwebRequest
    rwa [hservice, slash_suffix_iff, not_not] at hnot
  refine ⟨named, sent, hnamed, hwebRequest, hsecure, hhost, hnumber, ?_⟩
  rw [hservice, hnamedPath, dropSlashes_append_replicate, hcut]

end

/-- A client for an endpoint that begins as a web address sends requests where the endpoint says if the
endpoint is clear and no segment in front of the path of the service is empty, and only then. -/
theorem Client.follows_iff {endpoint : Text} (h : Config.isWebAddress endpoint = true)
    {client : Client} (hclient : client.address = addressOf endpoint) (request : Request) :
    client.Follows endpoint request ↔ Clear endpoint ∧
      ∀ sent, client.webRequest? request = some sent →
        ¬ '/' :: servicePath <:+ sent.address.path := by
  obtain ⟨front, body, tail, rfl, hparts⟩ := exists_parts h
  by_cases hfront : ∀ c ∈ front, isOuter c = true
  · constructor
    · exact clear_of_follows hparts hfront hclient
    · rintro ⟨hclear, hslash⟩
      exact follows_of_clear hparts hfront hclient hclear hslash
  · obtain ⟨c, hc, houter⟩ : ∃ c ∈ front, isOuter c = false := by simpa using hfront
    refine iff_of_false ?_ ?_
    · rintro ⟨-, sent, -, hsent, -⟩
      have hread := webRequest?_eq_some hsent
      rw [hclient, hparts.read?_addressOf_of_front hc houter] at hread
      cases hread
    · rintro ⟨hclear, -⟩
      have hle := hclear.front c (by rwa [hparts.takeWhile_eq])
      simp [isOuter, hle] at houter

/-! ## Clients of valid configurations -/

theorem isWebAddress_of_fault? {config : Config} (h : config.fault? = none) :
    Config.isWebAddress config.model.endpoint = true := by
  have hnone := List.find?_eq_none.1 h .endpoint (by decide)
  simpa [Config.Fault.isIn] using hnone

theorem address_of_ofConfig {environment : Text → Option Text} {settings : Config.Model}
    {client : Client} (h : Client.ofConfig environment settings = .ok client) :
    client.address = addressOf settings.endpoint := by
  unfold Client.ofConfig Client.ofKey at h
  split at h
  · cases h
  dsimp only at h
  split at h
  · cases h
    rfl
  · cases h

/-- The endpoint decides about the address of a client and about nothing else. -/
theorem ofConfig_endpoint {environment : Text → Option Text} {settings : Config.Model}
    {client : Client} (h : Client.ofConfig environment settings = .ok client) (endpoint : Text) :
    Client.ofConfig environment { settings with endpoint } =
      .ok { client with address := addressOf endpoint } := by
  unfold Client.ofConfig Client.ofKey at h ⊢
  dsimp only at h ⊢
  split at h
  · cases h
  · split at h
    · next hheader =>
      cases h
      rw [if_pos hheader]
    · cases h

theorem addressOf_append_slashes (endpoint : Text) (n : Nat) :
    addressOf (endpoint ++ List.replicate n '/') = addressOf endpoint := by
  rw [addressOf, dropSlashes_append_replicate, ← addressOf]

/-- White space of ASCII in front of an endpoint is no part of the address of the service. -/
theorem read?_addressOf_append {before endpoint : Text} (hbefore : ∀ c ∈ before, c.toNat ≤ 0x20)
    (h : Config.isWebAddress endpoint = true) :
    Address.read? (addressOf (before ++ endpoint)) = Address.read? (addressOf endpoint) := by
  obtain ⟨front, body, tail, rfl, hparts⟩ := exists_parts h
  have hne : (front ++ body ++ tail).rdropWhile (· == '/') ≠ [] := by
    rw [← dropSlashes_eq, hparts.dropSlashes_eq_append]
    exact List.append_ne_nil_of_right_ne_nil front hparts.rdropWhile_ne_nil
  have houter : ∀ c ∈ before, isOuter c = true := fun c hc ↦ by simpa [isOuter] using hbefore c hc
  have haddress : addressOf (before ++ (front ++ body ++ tail)) =
      before ++ addressOf (front ++ body ++ tail) := by
    rw [addressOf, dropSlashes_eq, rdropWhile_append_of_ne_nil _ _ hne, List.append_assoc]
    rfl
  rw [Address.read?_eq, Address.read?_eq, haddress, clean_eq, List.dropWhile_append_of_pos houter,
    ← clean_eq]

/-- Requests of a client for a valid configuration go where its endpoint says exactly when the endpoint
is clear and no segment in front of the path of the service is empty.  Slashes at the end of the
endpoint change nothing, and neither does white space of ASCII in front of it. -/
theorem requests_follow_endpoint_iff {config : Config} (hvalid : config.fault? = none)
    {environment : Text → Option Text} {client : Client}
    (hclient : Client.ofConfig environment config.model = .ok client) (request : Request) :
    (client.Follows config.model.endpoint request ↔ Clear config.model.endpoint ∧
      ∀ sent, client.webRequest? request = some sent →
        ¬ '/' :: servicePath <:+ sent.address.path) ∧
    (∀ n, Client.ofConfig environment
      { config.model with endpoint := config.model.endpoint ++ List.replicate n '/' } = .ok client) ∧
    ∀ before, (∀ c ∈ before, c.toNat ≤ 0x20) → ∃ other,
      Client.ofConfig environment
        { config.model with endpoint := before ++ config.model.endpoint } = .ok other ∧
      other.webRequest? request = client.webRequest? request := by
  have hweb := isWebAddress_of_fault? hvalid
  have haddress := address_of_ofConfig hclient
  refine ⟨Client.follows_iff hweb haddress request, fun n ↦ ?_, fun before hbefore ↦ ?_⟩
  · rw [ofConfig_endpoint hclient, addressOf_append_slashes, ← haddress]
  · refine ⟨_, ofConfig_endpoint hclient _, ?_⟩
    simp only [Client.webRequest?, read?_addressOf_append hbefore hweb, haddress]
    rfl

/-- White space in front of an endpoint and slashes at its end are no part of the address. -/
theorem requests_follow_endpoint_slashes :
    let config : Config := { model := { endpoint := "\n http://localhost:8080/v1//".toList } }
    let client : Client :=
      ⟨addressOf config.model.endpoint, "Bearer key".toList⟩
    let request := Request.ofPrompt config.model.model config.model.temperature "fix".toList
    config.fault? = none ∧ Client.ofConfig (fun _ ↦ some "key".toList) config.model = .ok client ∧
      client.Follows config.model.endpoint request ∧
      (client.webRequest? request).map (·.address.path) = some "/v1/chat/completions".toList := by
  intro config client request
  have hvalid : config.fault? = none := by decide +kernel
  have hclient : Client.ofConfig (fun _ ↦ some "key".toList) config.model = .ok client := by
    decide +kernel
  have hpath : (client.webRequest? request).map (·.address.path) =
      some "/v1/chat/completions".toList := by decide +kernel
  refine ⟨hvalid, hclient, ?_, hpath⟩
  refine (requests_follow_endpoint_iff hvalid hclient request).1.2 ⟨?_, fun sent hsent ↦ ?_⟩
  · have hfront : (config.model.endpoint.takeWhile isBlank).all (·.toNat ≤ 0x20) = true := by
      decide +kernel
    have hback : config.model.endpoint.rtakeWhile isPadding = [] := by decide +kernel
    refine ⟨by decide +kernel, by decide +kernel, by decide +kernel, fun c hc ↦ ?_, ?_⟩
    · exact of_decide_eq_true (List.all_eq_true.mp hfront c hc)
    · rw [hback]
      exact nofun
  · rw [hsent, Option.map_some] at hpath
    rw [Option.some.inj hpath]
    decide +kernel

/-- A space behind the endpoint, which the check of configurations passes over, gets into the path. -/
theorem requests_follow_blank_behind :
    let config : Config := { model := { endpoint := "http://localhost:8080/v1 ".toList } }
    let client : Client :=
      ⟨addressOf config.model.endpoint, "Bearer key".toList⟩
    let request := Request.ofPrompt config.model.model config.model.temperature "fix".toList
    config.fault? = none ∧ Client.ofConfig (fun _ ↦ some "key".toList) config.model = .ok client ∧
      (client.webRequest? request).map (·.address.path) = some "/v1%20/chat/completions".toList ∧
      ¬ client.Follows config.model.endpoint request := by
  intro config client request
  refine ⟨by decide +kernel, by decide +kernel, by decide +kernel, fun hfollows ↦ ?_⟩
  have hclear := ((Client.follows_iff (by decide +kernel) rfl request).1 hfollows).1
  have hblank := hclear.back ' ' (by decide +kernel)
  revert hblank
  decide

end CodeRepair.Chat
