import FlowPeers.Proofs.Calls
import FlowPeers.Proofs.Written

/-!
# Where requests are addressed to

A request is addressed to a peer if its target has the scheme, the host and the port of the peer's
address (`Request.IsTo`). Two things make this more than a comparison of texts: the address of a peer
is read as a URL, and the target of a request is read by other rules from a text that begins with
that address or with what was written of the URL. `Target.isAt_of_read` says that both readings of
the address agree, and `Url.IsWritable.isAt` that what was written is read again as it was.

So requests for the list of peers, for ports and for tokens, and those by which transactions are
opened, are addressed to the peer that they are for (`Operation.IsRequest.isTo`,
`Logins.isTo_of_tokenRequest`).
-/

namespace FlowPeers

open Text

namespace Url

/-- Whether two URLs have the scheme, the host and the port in common. -/
structure SameOrigin (a b : Url) : Prop where
  scheme : a.scheme = b.scheme
  host : a.host? = b.host?
  port : a.port? = b.port?

end Url

/-- Whether a target is at the scheme, the host and the port of a URL: what it says of them is the
written form of a URL of that origin, or is read as one. -/
def Target.IsAt (target : Target) (place : Url) : Prop :=
  ∃ scheme authority url, target.scheme = some scheme ∧ target.authority = some authority ∧
    url.SameOrigin place ∧
    (scheme = url.scheme ∧ url.authority.map Url.Authority.print = some authority ∨
      Url.parse (scheme ++ ':' :: '/' :: '/' :: authority) = .ok url)

/-- Whether a request is addressed to the scheme, the host and the port of a URL. -/
def Request.IsTo (request : Request) (place : Url) : Prop :=
  request.target.IsAt place

/-! ## Splitting texts -/

/-- A text is cut in one way only at the first character that fails a test. -/
theorem append_cons_inj {p : Char → Bool} {s s' rest rest' : List Char} {c c' : Char}
    (hs : ∀ d ∈ s, p d) (hs' : ∀ d ∈ s', p d) (hc : p c = false) (hc' : p c' = false)
    (h : s ++ c :: rest = s' ++ c' :: rest') : s = s' ∧ c :: rest = c' :: rest' := by
  have htake : ∀ {s rest : List Char} {c : Char}, (∀ d ∈ s, p d) → p c = false →
      (s ++ c :: rest).takeWhile p = s := by
    intro s rest c hs hc
    rw [List.takeWhile_append_of_pos hs, List.takeWhile_cons, hc]
    simp
  have heq : s = s' := by
    rw [← htake hs hc, h, htake hs' hc']
  subst heq
  exact ⟨rfl, List.append_cancel_left h⟩

/-- Whether a text is empty or begins with a character that ends an authority. -/
def IsBeyond (text : List Char) : Prop :=
  ∀ c, text.head? = some c → Target.endsAuthority c

/-- What is within an authority is cut off in front of what is beyond it. -/
theorem takeWhile_within {p : Char → Bool} {text rest : List Char} (h : ∀ c ∈ text, p c = false)
    (hrest : ∀ c, rest.head? = some c → p c) :
    (text ++ rest).takeWhile (!p ·) = text ∧ (text ++ rest).dropWhile (!p ·) = rest := by
  have hpos : ∀ c ∈ text, (!p c) = true := fun c hc => by simp [h c hc]
  rw [List.takeWhile_append_of_pos hpos, List.dropWhile_append_of_pos hpos]
  cases rest with
  | nil => simp
  | cons c rest => simp [hrest c rfl]

theorem takeWhile_within_self {p : Char → Bool} {text : List Char}
    (h : ∀ c ∈ text, p c = false) :
    text.takeWhile (!p ·) = text ∧ text.dropWhile (!p ·) = [] := by
  have hnil : ∀ c, ([] : List Char).head? = some c → p c := by simp
  simpa using takeWhile_within h hnil

/-- What is within an authority is told from what is beyond it. -/
theorem eq_of_append_eq {text text' rest rest' : List Char} (h : IsWithin text)
    (hrest : IsBeyond rest) (h' : IsWithin text') (hrest' : IsBeyond rest')
    (heq : text ++ rest = text' ++ rest') : text = text' := by
  rw [← (takeWhile_within h hrest).1, heq, (takeWhile_within h' hrest').1]

namespace Target

/-- Whether an authority may hold the character. -/
def isScanned (c : Char) : Bool :=
  isAuthorityChar c || c == '%'

theorem isScanned_of_mem_marks : ∀ d ∈ [':', '[', ']', '@', '%'], isScanned d :=
  List.all_eq_true.1 (by decide)

theorem isScanned_of_step {scan scan' : Scan} {c : Char} (h : scan.step c = .ok scan') :
    isScanned c := by
  rw [← Bool.not_eq_false]
  intro hnot
  have hother : ∀ d ∈ [':', '[', ']', '@', '%'], (c == d) = false := by
    intro d hd
    rw [beq_eq_false_iff_ne]
    rintro rfl
    rw [isScanned_of_mem_marks c hd] at hnot
    exact Bool.noConfusion hnot
  have hchar : isAuthorityChar c = false := (Bool.or_eq_false_iff.1 hnot).1
  simp only [Scan.step, hother ':' (by decide), hother '[' (by decide), hother ']' (by decide),
    hother '@' (by decide), hother '%' (by decide), hchar] at h
  contradiction

theorem isScanned_of_foldlM {scan scan' : Scan} {text : List Char}
    (h : text.foldlM Scan.step scan = .ok scan') : ∀ c ∈ text, isScanned c := by
  induction text generalizing scan with
  | nil => simp
  | cons c rest ih =>
    rw [List.foldlM_cons] at h
    cases hstep : scan.step c with
    | error e =>
      rw [hstep] at h
      contradiction
    | ok next =>
      rw [hstep] at h
      exact List.forall_mem_cons.2 ⟨isScanned_of_step hstep, ih h⟩

/-- An authority ends where it has to, holds the characters that it may, and is no mere at sign. -/
theorem of_readAuthority {text authority more : List Char}
    (h : readAuthority text = .ok (authority, more)) :
    text = authority ++ more ∧ IsWithin authority ∧ IsBeyond more ∧
      (∀ c ∈ authority, isScanned c) ∧ authority ≠ ['@'] := by
  unfold readAuthority at h
  dsimp only at h
  split at h
  · contradiction
  · next scan hscan =>
    split at h
    · contradiction
    · next hfits =>
      cases h
      refine ⟨List.takeWhile_append_dropWhile.symm, ?_, ?_, isScanned_of_foldlM hscan, ?_⟩
      · intro c hc
        simpa using List.all_eq_true.1 List.all_takeWhile c hc
      · intro c hc
        have hnot := List.head?_dropWhile_not (!endsAuthority ·) text
        rw [hc] at hnot
        simpa using hnot
      · intro heq
        rw [heq] at hscan
        cases hscan
        simp at hfits

theorem splitScheme_cases {text rest : List Char} {scheme? : Option (List Char)}
    (h : splitScheme text = .ok (scheme?, rest)) :
    (scheme? = none ∧ rest = text) ∨ ∃ scheme, text = scheme ++ ':' :: '/' :: '/' :: rest ∧
      (∀ c ∈ scheme, isSchemeChar c) ∧
      (scheme? = some scheme ∨ scheme? = some (scheme.map Unicode.lowerAscii)) := by
  unfold splitScheme at h
  dsimp only at h
  split at h
  · next more hmore =>
    have htext : text = text.takeWhile isSchemeChar ++ ':' :: '/' :: '/' :: more := by
      rw [← hmore, List.takeWhile_append_dropWhile]
    have hchars : ∀ c ∈ text.takeWhile isSchemeChar, isSchemeChar c :=
      fun c hc => List.all_eq_true.1 List.all_takeWhile c hc
    split at h
    · cases h
      exact .inr ⟨_, htext, hchars, .inr rfl⟩
    · split at h
      · contradiction
      · split at h
        · cases h
          exact .inr ⟨_, htext, hchars, .inl rfl⟩
        · cases h
          exact .inl ⟨rfl, rfl⟩
  · cases h
    exact .inl ⟨rfl, rfl⟩

/-- A target that is more than an authority is read from a scheme, an authority and what is
beyond. -/
theorem exists_of_read {text : List Char} {target : Target} (h : read text = .ok target)
    (hhead : text.head? ≠ some '/') (hends : ∃ c ∈ text, endsAuthority c) :
    ∃ scheme rest authority more, text = scheme ++ ':' :: '/' :: '/' :: rest ∧
      (∀ c ∈ scheme, isSchemeChar c) ∧
      (target.scheme = some scheme ∨ target.scheme = some (scheme.map Unicode.lowerAscii)) ∧
      readAuthority rest = .ok (authority, more) ∧ target.authority = some authority ∧
      authority ≠ [] := by
  -- an authority alone does not take the character that ends it
  have hmore : ∀ {authority more : List Char}, readAuthority text = .ok (authority, more) →
      more ≠ [] := by
    intro authority more hread hnil
    obtain ⟨c, hc, hcends⟩ := hends
    obtain ⟨hwhole, hwithin, -⟩ := of_readAuthority hread
    rw [hwhole, hnil, List.append_nil] at hc
    rw [hwithin c hc] at hcends
    contradiction
  unfold read at h
  split at h
  · contradiction
  · split at h
    · obtain ⟨c, hc, -⟩ := hends
      contradiction
    · next c =>
      rw [readOne] at h
      split at h
      · next hc =>
        rw [Bool.or_eq_true, beq_iff_eq, beq_iff_eq] at hc
        rcases hc with rfl | rfl
        · exact absurd rfl hhead
        · obtain ⟨d, hd, hdends⟩ := hends
          rw [List.mem_singleton.1 hd] at hdends
          contradiction
      · split at h
        · contradiction
        · next authority hread => exact absurd rfl (hmore hread)
        · contradiction
    · exact absurd rfl hhead
    · rw [readFull] at h
      split at h
      · contradiction
      · next scheme? rest hsplit =>
        split at h
        · contradiction
        · next authority more hread =>
          rcases splitScheme_cases hsplit with ⟨rfl, rfl⟩ | ⟨scheme, htext, hchars, hscheme⟩
          · simp only at h
            split at h
            · next hnil => exact absurd (List.isEmpty_iff.1 hnil) (hmore hread)
            · contradiction
          · have htarget : target.scheme = scheme? ∧ target.authority = some authority ∧
                authority ≠ [] := by
              rcases hscheme with rfl | rfl <;>
              · simp only at h
                split at h
                · contradiction
                · next hne =>
                  split at h
                  · contradiction
                  · cases h
                    exact ⟨rfl, rfl, by simpa using hne⟩
            obtain ⟨htarget, hauthority, hne⟩ := htarget
            exact ⟨scheme, rest, authority, more, htext, hchars, htarget ▸ hscheme, hread,
              hauthority, hne⟩

end Target

namespace Url

/-! ## Reading an authority again -/

/-- Whether a character is read as it stands wherever it does in a text. -/
def isPlain (c : Char) : Bool :=
  0x20 < c.toNat

theorem isIgnored_eq_false {c : Char} (h : isPlain c) : isIgnored c = false := by
  rw [Bool.eq_false_iff]
  intro hignored
  simp only [isIgnored, Bool.or_eq_true, beq_iff_eq] at hignored
  rcases hignored with (rfl | rfl) | rfl <;> contradiction

theorem decide_isPlain {c : Char} (h : isPlain c) : decide (c.toNat ≤ 0x20) = false := by
  rw [isPlain, decide_eq_true_eq] at h
  exact decide_eq_false (by omega)

/-- What is read of a text that something plain stands in front of. -/
def cleanEnd (text : List Char) : List Char :=
  (dropEnd (·.toNat ≤ 0x20) text).filter (!isIgnored ·)

/-- Only what follows the last plain character is left out at the end of a text. -/
theorem dropEnd_append {text : List Char} (h : ∀ c, text.getLast? = some c → isPlain c)
    (rest : List Char) :
    dropEnd (·.toNat ≤ 0x20) (text ++ rest) = text ++ dropEnd (·.toNat ≤ 0x20) rest := by
  have hback : text.reverse.dropWhile (·.toNat ≤ 0x20) = text.reverse := by
    rw [← List.head?_reverse] at h
    cases hrev : text.reverse with
    | nil => rfl
    | cons c more =>
      rw [hrev] at h
      rw [List.dropWhile_cons, decide_isPlain (h c rfl), if_neg Bool.false_ne_true]
  rw [dropEnd, List.reverse_append, List.dropWhile_append, hback, dropEnd]
  split
  · next hnil => simp [List.isEmpty_iff.1 hnil]
  · simp

/-- What is plain in front of a text is read as it stands. -/
theorem clean_append {text : List Char} (hne : text ≠ []) (htext : ∀ c ∈ text, isPlain c)
    (rest : List Char) : clean (text ++ rest) = text ++ cleanEnd rest := by
  have hstart : (text ++ rest).dropWhile (·.toNat ≤ 0x20) = text ++ rest := by
    obtain ⟨c, more, rfl⟩ := List.exists_cons_of_ne_nil hne
    have hc : isPlain c := htext c (List.mem_cons_self ..)
    rw [List.cons_append, List.dropWhile_cons, decide_isPlain hc, if_neg Bool.false_ne_true]
  have hfilter : text.filter (!isIgnored ·) = text :=
    List.filter_eq_self.2 fun c hc => by simp [isIgnored_eq_false (htext c hc)]
  rw [clean, trimBy, hstart, dropEnd_append fun c hc => htext c (List.mem_of_getLast? hc),
    List.filter_append, hfilter, cleanEnd]

theorem head?_cleanEnd {text : List Char} (h : ∀ c, text.head? = some c → isPlain c) :
    (cleanEnd text).head? = text.head? := by
  cases text with
  | nil => rfl
  | cons c more =>
    have hc : isPlain c := h c rfl
    rw [cleanEnd, ← List.singleton_append, dropEnd_append (by simpa using hc), List.filter_append]
    simp [isIgnored_eq_false hc]

theorem exists_clean_append {text : List Char} (hne : text ≠ [])
    (htext : ∀ c ∈ text, isPlain c) (rest : List Char) : ∃ left, clean (text ++ rest) = text ++ left ∧
      ((∀ c, rest.head? = some c → isPlain c) → left.head? = rest.head?) :=
  ⟨cleanEnd rest, clean_append hne htext rest, head?_cleanEnd⟩

theorem clean_eq_self {text : List Char} (hne : text ≠ []) (htext : ∀ c ∈ text, isPlain c) :
    clean text = text := by
  simpa [cleanEnd, dropEnd] using clean_append hne htext []

/-- A scheme in front of a colon is read in lower case. -/
theorem splitScheme?_append {scheme rest : List Char} (hhead : scheme.head?.any Char.isAlpha)
    (hscheme : ∀ c ∈ scheme, isSchemeChar c) :
    splitScheme? (scheme ++ ':' :: rest) = some (scheme.map Unicode.lowerAscii, rest) := by
  have hcolon : isSchemeChar ':' = false := by decide
  cases scheme with
  | nil => contradiction
  | cons first more =>
    have halpha : first.isAlpha := hhead
    rw [splitScheme?, List.dropWhile_append_of_pos hscheme, List.takeWhile_append_of_pos hscheme,
      List.dropWhile_cons, List.takeWhile_cons, hcolon]
    simp [halpha]

/-- Whether a text can stand as the authority of a URL and of a target. -/
structure IsAuthority (text : List Char) : Prop where
  ne_nil : text ≠ []
  isWithin : IsWithin text
  isScanned : ∀ c ∈ text, Target.isScanned c
  ne_at : text ≠ ['@']

variable {scheme text rest : List Char} {place : Url}

/-- It does not matter whether an authority is all that is left of a text. -/
theorem readAuthority_atEnd (h : IsAuthority text) (atEnd : Bool) :
    readAuthority scheme atEnd text = readAuthority scheme true text := by
  have hat : (text.head? == some '@' && ((splitUser? text).getD ([], text)).1.isEmpty &&
      ((splitUser? text).getD ([], text)).2.isEmpty) = false := by
    rw [Bool.eq_false_iff]
    intro hat
    simp only [Bool.and_eq_true, beq_iff_eq, List.isEmpty_iff] at hat
    obtain ⟨⟨hhead, hinfo⟩, haddress⟩ := hat
    have hmem : text.contains '@' := by
      simpa using List.mem_of_mem_head? hhead
    rw [splitUser?, if_pos hmem, Option.getD_some] at hinfo haddress
    simp only at hinfo haddress
    rw [haddress, List.take_eq_nil_iff] at hinfo
    rcases hinfo with hlength | hnil
    · cases text with
      | nil => exact h.ne_nil rfl
      | cons c more =>
        obtain rfl : c = '@' := Option.some.inj hhead
        have hmore : more.length = 0 := by simpa using hlength
        exact h.ne_at (congrArg _ (List.eq_nil_of_length_eq_zero hmore))
    · exact h.ne_nil hnil
  unfold readAuthority
  simp only [hat, Bool.false_and]

theorem endsAuthority_eq_false (h : IsAuthority text) (kind : Kind) :
    ∀ c ∈ text, endsAuthority kind c = false := by
  intro c hc
  have hwithin := h.isWithin c hc
  rw [Bool.eq_false_iff] at hwithin ⊢
  intro hends
  simp only [endsAuthority, isSlash, endsPath, Bool.or_eq_true, Bool.and_eq_true, beq_iff_eq] at hends
  rcases hends with (rfl | ⟨-, rfl⟩) | rfl | rfl
  · contradiction
  · have hscanned := h.isScanned _ hc
    contradiction
  · contradiction
  · contradiction

theorem endsAuthority_of_isBeyond (h : IsBeyond rest) (kind : Kind) :
    ∀ c, rest.head? = some c → endsAuthority kind c := by
  intro c hc
  rcases endsAuthority_iff.1 (h c hc) with rfl | rfl | rfl <;>
    simp [endsAuthority, isSlash, endsPath]

theorem readFromAuthority_sameOrigin (h : IsAuthority text) (hrest : IsBeyond rest)
    (hread : readFromAuthority scheme (text ++ rest) = .ok place) :
    ∃ url, readFromAuthority scheme text = .ok url ∧ url.SameOrigin place := by
  have hends := endsAuthority_eq_false h (kind scheme)
  obtain ⟨htake, hdrop⟩ := takeWhile_within hends (endsAuthority_of_isBeyond hrest _)
  obtain ⟨htake', hdrop'⟩ := takeWhile_within_self hends
  rw [readFromAuthority] at hread ⊢
  simp only [htake, hdrop, readAuthority_atEnd h] at hread
  simp only [htake', hdrop', readAuthority_atEnd h]
  split at hread
  · contradiction
  · next authority left hleft =>
    cases hread
    exact ⟨_, rfl, rfl, rfl, rfl⟩

theorem readFileFromHost_sameOrigin (h : IsAuthority text) (hrest : IsBeyond rest)
    (hread : readFileFromHost (text ++ rest) = .ok place) (hhost : place.host? ≠ none) :
    ∃ url, readFileFromHost text = .ok url ∧ url.SameOrigin place := by
  have hends := endsAuthority_eq_false h .file
  obtain ⟨htake, hdrop⟩ := takeWhile_within hends (endsAuthority_of_isBeyond hrest _)
  obtain ⟨htake', hdrop'⟩ := takeWhile_within_self hends
  rw [readFileFromHost] at hread ⊢
  simp only [htake, hdrop] at hread
  simp only [htake', hdrop']
  split at hread
  · cases hread
    exact absurd rfl hhost
  · next hdrive =>
    rw [if_neg hdrive]
    split at hread
    · contradiction
    · next host hread' =>
      cases hread
      split at hhost
      · exact absurd rfl hhost
      · next hleads =>
        have hnone : leadsToDrive (dropSlash []) = false := by decide
        simp only [hnone, if_neg hleads]
        exact ⟨_, rfl, rfl, rfl, rfl⟩

theorem readAfterScheme_sameOrigin (h : IsAuthority text) (hrest : IsBeyond rest)
    (hread : readAfterScheme none scheme ('/' :: '/' :: (text ++ rest)) = .ok place)
    (hhost : place.host? ≠ none) :
    ∃ url, readAfterScheme none scheme ('/' :: '/' :: text) = .ok url ∧ url.SameOrigin place := by
  rw [readAfterScheme] at hread ⊢
  cases hkind : kind scheme with
  | file =>
    rw [hkind] at hread
    exact readFileFromHost_sameOrigin h hrest hread hhost
  | other =>
    rw [hkind] at hread
    exact readFromAuthority_sameOrigin h hrest hread
  | web =>
    rw [hkind] at hread
    have hslash : ∀ rest : List Char, ('/' :: '/' :: (text ++ rest)).dropWhile (isSlash .web) =
        text ++ rest := by
      intro rest
      have hends := endsAuthority_eq_false h .web
      cases hcons : text with
      | nil => exact absurd hcons h.ne_nil
      | cons c more =>
        rw [hcons] at hends
        have hc : isSlash .web c = false := (Bool.or_eq_false_iff.1 (hends c (by simp))).1
        have hfirst : isSlash .web '/' = true := by decide
        simp [hfirst, hc]
    have hslash' := hslash []
    rw [List.append_nil] at hslash'
    simp only [Option.filter_none, hslash] at hread
    simp only [Option.filter_none, hslash']
    exact readFromAuthority_sameOrigin h hrest hread

/-- A text that is read alone has a scheme. -/
theorem exists_of_parse {text : List Char} (h : parse text = .ok place) :
    ∃ raw rest, clean text = raw ++ ':' :: rest ∧ raw.head?.any Char.isAlpha ∧
      (∀ c ∈ raw, isSchemeChar c) ∧
      readAfterScheme none (raw.map Unicode.lowerAscii) rest = .ok place := by
  rw [parse, readOnto] at h
  split at h
  · next scheme rest hscheme =>
    obtain ⟨raw, htext, rfl, hhead, hraw⟩ := exists_of_splitScheme? hscheme
    exact ⟨raw, rest, htext, hhead, hraw, h⟩
  · contradiction

theorem parse_of_clean_eq {text raw rest : List Char} (h : clean text = raw ++ ':' :: rest)
    (hhead : raw.head?.any Char.isAlpha) (hraw : ∀ c ∈ raw, isSchemeChar c) :
    parse text = readAfterScheme none (raw.map Unicode.lowerAscii) rest := by
  rw [parse, readOnto, h, splitScheme?_append hhead hraw]

/-- A single slash after a scheme leads to no host. -/
theorem host?_of_readAfterScheme_slash (h : readAfterScheme none scheme ['/'] = .ok place) :
    place.host? = none := by
  rw [readAfterScheme] at h
  cases hkind : kind scheme with
  | file =>
    rw [hkind] at h
    cases h
    rfl
  | other =>
    rw [hkind] at h
    cases h
    rfl
  | web =>
    rw [hkind] at h
    have hslash : (['/'] : List Char).dropWhile (isSlash .web) = [] := by decide
    simp only [Option.filter_none, hslash] at h
    simp [readFromAuthority, readAuthority, splitUser?, splitHost, hkind, readHost] at h

end Url

/-! ## Requests that are read from the address of a peer -/

namespace Target

theorem isPlain_of_isAlphanum {c : Char} (h : c.isAlphanum) : Url.isPlain c := by
  have hbeyond : ∀ d : Char, 0x20 < d.toNat → d.val ≤ c.val → Url.isPlain c :=
    fun d hd hle => decide_eq_true (Nat.lt_of_lt_of_le hd hle)
  -- letters in upper and in lower case, and digits
  rcases Bool.or_eq_true_iff.1 h with halpha | hdigit
  · rcases Bool.or_eq_true_iff.1 halpha with hupper | hlower
    · exact hbeyond 'A' (by decide) (of_decide_eq_true hupper).1
    · exact hbeyond 'a' (by decide) (of_decide_eq_true (Bool.and_eq_true_iff.1 hlower).1)
  · exact hbeyond '0' (by decide) (of_decide_eq_true (Bool.and_eq_true_iff.1 hdigit).1)

theorem isPlain_of_isSchemeChar {c : Char} (h : isSchemeChar c) : Url.isPlain c := by
  have hmarks : ∀ d ∈ ['+', '-', '.', '~'], Url.isPlain d := List.all_eq_true.1 (by decide)
  rw [isSchemeChar, Bool.or_eq_true, List.contains_iff_mem] at h
  exact h.elim isPlain_of_isAlphanum (hmarks c)

theorem isPlain_of_isScanned {c : Char} (h : isScanned c) : Url.isPlain c := by
  have hmarks : ∀ d ∈ "!$&'()*+,-.:;=@[]_~".toList, Url.isPlain d :=
    List.all_eq_true.1 (by decide)
  rw [isScanned, isAuthorityChar, Bool.or_eq_true, Bool.or_eq_true, List.contains_iff_mem,
    beq_iff_eq] at h
  rcases h with (h | h) | rfl
  · exact isPlain_of_isAlphanum h
  · exact hmarks c h
  · decide

/-- A scheme, a colon and what is plain are plain. -/
theorem isPlain_of_mem_scheme {scheme rest : List Char} (hscheme : ∀ c ∈ scheme, isSchemeChar c)
    (hrest : ∀ c ∈ rest, Url.isPlain c) : ∀ c ∈ scheme ++ ':' :: rest, Url.isPlain c :=
  List.forall_mem_append.2 ⟨fun c hc => isPlain_of_isSchemeChar (hscheme c hc),
    List.forall_mem_cons.2 ⟨by decide, hrest⟩⟩

theorem of_isSchemeChar {c : Char} (h : isSchemeChar c) : c ≠ '/' ∧ c ≠ ':' := by
  constructor
  · rintro rfl
    contradiction
  · rintro rfl
    contradiction

/-- What is read beyond the address of a peer has the scheme and the authority of that address,
unless the address ends in front of its authority. -/
theorem append_cases {u path scheme rest : List Char} (hscheme : ∀ c ∈ scheme, isSchemeChar c)
    (hpath : path.head? ≠ some '/') (h : u ++ '/' :: path = scheme ++ ':' :: '/' :: '/' :: rest) :
    u = scheme ++ [':', '/'] ∨
      ∃ more, u = scheme ++ ':' :: '/' :: '/' :: more ∧ rest = more ++ '/' :: path := by
  rcases List.append_eq_append_iff.1 h with ⟨as, hscheme', hpath'⟩ | ⟨bs, rfl, hrest⟩
  · -- the address does not end within the scheme, whose characters are no slashes
    cases as with
    | nil => simp at hpath'
    | cons c as =>
      obtain ⟨rfl, -⟩ := List.cons.inj hpath'
      exact absurd rfl (of_isSchemeChar (hscheme '/' (by simp [hscheme']))).1
  · match bs, hrest with
    | [], hrest => simp at hrest
    | [c], hrest =>
      simp only [List.cons_append, List.nil_append, List.cons.injEq] at hrest
      exact absurd (by rw [← hrest.2.2]; rfl) hpath
    | [c, d], hrest =>
      simp only [List.cons_append, List.nil_append, List.cons.injEq] at hrest
      obtain ⟨rfl, rfl, -⟩ := hrest
      exact .inl rfl
    | c :: d :: e :: bs, hrest =>
      simp only [List.cons_append, List.cons.injEq] at hrest
      obtain ⟨rfl, rfl, rfl, hrest⟩ := hrest
      exact .inr ⟨bs, rfl, hrest⟩

/-- A text that begins with a slash is no address. -/
theorem head?_ne_of_parse {u path : List Char} {place : Url} (hparse : Url.parse u = .ok place) :
    (u ++ '/' :: path).head? ≠ some '/' := by
  obtain ⟨raw, rest, hclean, hhead, -, -⟩ := Url.exists_of_parse hparse
  cases u with
  | nil => simp [Url.clean, trimBy, dropEnd] at hclean
  | cons c more =>
    rintro heq
    obtain rfl : c = '/' := Option.some.inj heq
    obtain ⟨left, hleft, -⟩ := Url.exists_clean_append (List.cons_ne_nil '/' [])
      (List.forall_mem_singleton.2 (by decide)) more
    rw [List.singleton_append, hclean] at hleft
    cases raw with
    | nil => contradiction
    | cons d raw =>
      obtain ⟨rfl, -⟩ := List.cons.inj hleft
      contradiction

/-- What is asked for beyond the address of a peer is asked for at this address. -/
theorem isAt_of_read {u path : List Char} {target : Target} {place : Url}
    (hpath : path.head? ≠ some '/') (hread : read (u ++ '/' :: path) = .ok target)
    (hparse : Url.parse u = .ok place) (hhost : place.host? ≠ none) : target.IsAt place := by
  obtain ⟨scheme, rest, authority, more, htext, hscheme, htarget, hread', hauthority, hne⟩ :=
    exists_of_read hread (head?_ne_of_parse hparse) ⟨'/', by simp, by decide⟩
  obtain ⟨raw, after, hclean, hhead, hraw, hafter⟩ := Url.exists_of_parse hparse
  have hcut : ∀ {rest : List Char}, Url.clean u = scheme ++ ':' :: rest → raw = scheme ∧ after = rest := by
    intro rest heq
    have hsame := append_cons_inj (fun c hc => Url.isSchemeChar_target (hraw c hc)) hscheme
      (by decide) (by decide) (hclean.symm.trans heq)
    exact ⟨hsame.1, (List.cons.inj hsame.2).2⟩
  rcases append_cases hscheme hpath htext with rfl | ⟨left, rfl, rfl⟩
  · -- the address has no host as its authority would begin with what is asked for
    have hwhole : ∀ c ∈ scheme ++ [':', '/'], Url.isPlain c :=
      isPlain_of_mem_scheme hscheme (List.forall_mem_singleton.2 (by decide))
    obtain ⟨rfl, rfl⟩ := hcut (Url.clean_eq_self (by simp) hwhole)
    exact absurd (Url.host?_of_readAfterScheme_slash hafter) hhost
  · obtain ⟨hrest, hwithin, hmore, hscanned, hat⟩ := of_readAuthority hread'
    -- the authority ends within the address, or with it
    obtain ⟨beyond, rfl, hbeyond⟩ : ∃ beyond, left = authority ++ beyond ∧ IsBeyond beyond := by
      rcases List.append_eq_append_iff.1 hrest with ⟨as, rfl, has⟩ | ⟨bs, rfl, rfl⟩
      · cases as with
        | nil => exact ⟨[], by simp, by simp [IsBeyond]⟩
        | cons c as =>
          obtain ⟨rfl, -⟩ := List.cons.inj has
          have hslash : endsAuthority '/' = false := hwithin '/' (by simp)
          contradiction
      · refine ⟨bs, rfl, fun c hc => hmore c ?_⟩
        cases bs with
        | nil => contradiction
        | cons d bs => exact hc
    have hplain : ∀ c ∈ '/' :: '/' :: authority, Url.isPlain c :=
      List.forall_mem_cons.2 ⟨by decide, List.forall_mem_cons.2
        ⟨by decide, fun c hc => isPlain_of_isScanned (hscanned c hc)⟩⟩
    have hplainBeyond : ∀ c, beyond.head? = some c → Url.isPlain c := by
      intro c hc
      rcases endsAuthority_iff.1 (hbeyond c hc) with rfl | rfl | rfl <;> decide
    obtain ⟨beyond', hclean', hhead'⟩ := Url.exists_clean_append (by simp)
      (isPlain_of_mem_scheme hscheme hplain) beyond
    simp only [List.append_assoc, List.cons_append] at hclean'
    obtain ⟨rfl, rfl⟩ := hcut hclean'
    have hbeyond' : IsBeyond beyond' := fun c hc => hbeyond c (hhead' hplainBeyond ▸ hc)
    obtain ⟨url, hurl, hsame⟩ :=
      Url.readAfterScheme_sameOrigin ⟨hne, hwithin, hscanned, hat⟩ hbeyond' hafter hhost
    -- the scheme may have been put into lower case, in which it is read the same
    have hagain : ∀ {lead : List Char}, lead.head?.any Char.isAlpha → (∀ c ∈ lead, Url.isSchemeChar c) →
        lead.map Unicode.lowerAscii = raw.map Unicode.lowerAscii →
        Url.parse (lead ++ ':' :: '/' :: '/' :: authority) = .ok url := by
      intro lead hlead hchars hlower
      have hclean := Url.clean_eq_self (by simp) (isPlain_of_mem_scheme
        (fun c hc => Url.isSchemeChar_target (hchars c hc)) hplain)
      rw [Url.parse_of_clean_eq hclean hlead hchars, hlower]
      exact hurl
    rcases htarget with htarget | htarget
    · exact ⟨raw, authority, url, htarget, hauthority, hsame, .inr (hagain hhead hraw rfl)⟩
    · refine ⟨_, authority, url, htarget, hauthority, hsame, .inr (hagain ?_ ?_ ?_)⟩
      · cases raw with
        | nil => contradiction
        | cons c raw => exact Url.isAlpha_lowerAscii hhead
      · intro c hc
        obtain ⟨d, hd, rfl⟩ := List.mem_map.1 hc
        exact Url.isSchemeChar_lowerAscii (hraw d hd)
      · rw [List.map_map]
        exact List.map_congr_left fun c _ => Url.lowerAscii_lowerAscii c

end Target

/-! ## Requests for what is written -/

namespace Url

variable {url : Url}

/-- The written form of a query or a fragment, with the mark in front. -/
def suffixText (mark : Char) : Option (List Char) → List Char
  | some text => mark :: text
  | none => []

/-- What follows the authority in the written form of a URL. -/
def beyond (url : Url) : List Char :=
  url.path.print ++ suffixText '?' url.query ++ suffixText '#' url.fragment

theorem print_of_authority {a : Authority} (h : url.authority = some a) :
    url.print = url.scheme ++ ':' :: '/' :: '/' :: (a.print ++ url.beyond) := by
  rw [print, h, beyond]
  cases url.query <;> cases url.fragment <;> simp [suffixText]

theorem IsWritable.isBeyond (h : url.IsWritable) (hsome : url.authority ≠ none) :
    IsBeyond url.beyond := by
  obtain ⟨segments, hpath⟩ := h.rooted hsome
  intro c hc
  rw [beyond, hpath] at hc
  cases segments with
  | cons segment rest =>
    obtain rfl : '/' = c := Option.some.inj hc
    decide
  | nil =>
    cases hquery : url.query with
    | some query =>
      rw [hquery] at hc
      obtain rfl : '?' = c := Option.some.inj hc
      decide
    | none =>
      cases hfragment : url.fragment with
      | some fragment =>
        rw [hquery, hfragment] at hc
        obtain rfl : '#' = c := Option.some.inj hc
        decide
      | none =>
        rw [hquery, hfragment] at hc
        contradiction

end Url

/-- The written form of a URL is read as its scheme, its authority and what is beyond. -/
theorem Url.IsWritable.isAt {url place : Url} (h : url.IsWritable) (hsome : url.authority ≠ none)
    (hsame : url.SameOrigin place) {target : Target} (hread : Target.read url.print = .ok target) :
    target.IsAt place := by
  obtain ⟨a, ha⟩ := Option.ne_none_iff_exists'.1 hsome
  have hprint := print_of_authority ha
  have hbeyond := h.isBeyond hsome
  have hhead : url.print.head? ≠ some '/' := by
    rw [hprint, List.head?_append_of_ne_nil _ h.isScheme.ne_nil]
    intro hslash
    exact (Target.of_isSchemeChar
      (h.isScheme.isSchemeChar _ (List.mem_of_mem_head? hslash))).1 rfl
  obtain ⟨scheme, rest, authority, more, htext, hscheme, htarget, hread', hauthority, -⟩ :=
    Target.exists_of_read hread hhead ⟨'/', by simp [hprint], by decide⟩
  obtain ⟨hrest, hwithin, hmore, -⟩ := Target.of_readAuthority hread'
  obtain ⟨rfl, hcut⟩ := append_cons_inj h.isScheme.isSchemeChar hscheme (by decide) (by decide)
    (hprint.symm.trans htext)
  have hauthority' : a.print = authority := by
    refine eq_of_append_eq (h.isWithin a ha) hbeyond hwithin hmore ?_
    rw [← hrest]
    exact (List.cons.inj (List.cons.inj (List.cons.inj hcut).2).2).2
  have htarget' : target.scheme = some url.scheme := by
    rw [h.isScheme.lower] at htarget
    exact htarget.elim id id
  exact ⟨_, authority, url, htarget', hauthority, hsame, .inl ⟨rfl, by rw [ha, ← hauthority']; rfl⟩⟩

/-- A request for a URL is addressed to its scheme, its host and its port. -/
theorem Request.isTo_of_toUrl_print {url place : Url} (h : url.IsWritable)
    (hsome : url.authority ≠ none) (hsame : url.SameOrigin place) {method : String}
    {headers : List Header} {body : Body} {request : Request}
    (hrequest : toUrl method (String.ofList url.print) headers body = .ok request) :
    request.IsTo place := by
  obtain ⟨target, hread, rfl⟩ := eq_of_toUrl_eq_ok hrequest
  rw [String.toList_ofList] at hread
  exact h.isAt hsome hsame hread

/-- A request for something beyond the address of a peer is addressed to the peer. -/
theorem Request.isTo_of_toUrl_append {peer path : String} {rest : List Char}
    (hpath : path.toList = '/' :: rest) (hrest : rest.head? ≠ some '/') {place : Url}
    (hparse : Url.parse peer.toList = .ok place) (hhost : place.host? ≠ none) {method : String}
    {headers : List Header} {body : Body} {request : Request}
    (hrequest : toUrl method (peer ++ path) headers body = .ok request) : request.IsTo place := by
  obtain ⟨target, hread, rfl⟩ := eq_of_toUrl_eq_ok hrequest
  rw [String.toList_append, hpath] at hread
  exact Target.isAt_of_read hrest hread hparse hhost

/-! ## What peers are asked for -/

/-- Where transactions are opened is where the peer is. -/
theorem Transaction.isWritable_openUrl {peer port : String} {url place : Url}
    (h : openUrl peer port = .ok url) (hparse : Url.parse peer.toList = .ok place) :
    url.IsWritable ∧ url.SameOrigin place := by
  rw [openUrl, hparse] at h
  simp only at h
  split at h
  · contradiction
  · next extended hextend =>
    cases h
    have hplace := Url.isWritable_parse hparse
    rw [Url.extend?] at hextend
    split at hextend
    · contradiction
    · cases hextend
      exact ⟨⟨hplace.isScheme, hplace.isWithin, fun _ => ⟨_, rfl⟩⟩, rfl, rfl, rfl⟩

theorem Url.authority_ne_none {url : Url} (h : url.host? ≠ none) : url.authority ≠ none := by
  intro hnone
  exact h (by rw [host?, hnone]; rfl)

/-- Every operation takes requests to the peer that it is done with. -/
theorem Operation.IsRequest.isTo {operation : Operation} {peer : String}
    {authorization : Option HeaderValue} {request : Request}
    (h : operation.IsRequest peer authorization request) {place : Url}
    (hparse : Url.parse peer.toList = .ok place) (hhost : place.host? ≠ none) :
    request.IsTo place := by
  cases operation with
  | refresh => exact Request.isTo_of_toUrl_append rfl (by decide) hparse hhost h
  | resolvePort name => exact Request.isTo_of_toUrl_append rfl (by decide) hparse hhost h
  | openTransaction port =>
    obtain ⟨url, hurl, h⟩ := h
    obtain ⟨hwritable, hsame⟩ := Transaction.isWritable_openUrl hurl hparse
    have hsome : url.host? ≠ none := hsame.host ▸ hhost
    exact Request.isTo_of_toUrl_print hwritable (Url.authority_ne_none hsome) hsame h

/-- A token is asked for at the peer that it is for. -/
theorem Logins.isTo_of_tokenRequest {credentials : Credentials} {peer : String} {request : Request}
    (h : tokenRequest credentials peer = .ok request) {place : Url}
    (hparse : Url.parse peer.toList = .ok place) (hhost : place.host? ≠ none) :
    request.IsTo place :=
  Request.isTo_of_toUrl_append rfl (by decide) hparse hhost h

end FlowPeers
