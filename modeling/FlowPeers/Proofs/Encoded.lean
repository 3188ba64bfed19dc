import FlowPeers.Proofs.Origin
import FlowPeers.Proofs.Spelling
import FlowPeers.Proofs.Utf8
import FlowPeers.Transaction

/-!
# What stands in a URL

In every part of a URL that is read, the characters that could be taken for something else are
percent-encoded: each part holds only some characters of ASCII (`Url.IsEncoded`). How a URL is read
does not matter (`Url.IsRead.isEncoded`), so this holds of what is relative to a URL of which it holds
(`Url.isEncoded_join`), and it stays so where a peer opens transactions
(`Transaction.isEncoded_openUrl`).
-/

namespace FlowPeers

open Text

/-! ## Characters -/

/-- What holds of all characters of ASCII by their numbers holds of each of them. -/
theorem forall_ascii {P : Char → Prop} (h : ∀ n < 0x80, P (Char.ofNat n)) {c : Char}
    (hc : c.toNat < 0x80) : P c := by
  have hofNat := h c.toNat hc
  rwa [Char.ofNat_toNat] at hofNat

namespace Text

/-- What stands between separators is none. -/
theorem of_mem_splitOn {p : Char → Bool} {s piece : List Char}
    (h : piece ∈ splitOn p s) : ∀ c ∈ piece, p c = false := by
  induction s generalizing piece with
  | nil => simp_all [splitOn]
  | cons d s ih =>
    rw [splitOn] at h
    split at h
    · rcases List.mem_cons.1 h with rfl | h
      · simp
      · exact ih h
    · next hd =>
      cases hsplit : splitOn p s with
      | nil => exact absurd hsplit (splitOn_ne_nil _ _)
      | cons first pieces =>
        rw [hsplit] at h ih
        rcases List.mem_cons.1 h with rfl | h
        · exact List.forall_mem_cons.2 ⟨Bool.eq_false_iff.2 hd, ih (List.mem_cons_self ..)⟩
        · exact ih (List.mem_cons_of_mem _ h)

/-- What is percent-encoded holds percent signs, digits, and what may stand as it is. -/
theorem forall_mem_percentEncode {P : Char → Prop} {escaped : Char → Bool} (hpercent : P '%')
    (hdigit : ∀ d < 16, P (upperHexDigit d))
    (hplain : ∀ n < 0x80, escaped (Char.ofNat n) = false → P (Char.ofNat n)) (text : List Char) :
    ∀ c ∈ percentEncode escaped text, P c := by
  intro c hc
  rcases of_mem_percentEncode hc with ⟨-, hascii, hescaped⟩ | rfl | ⟨d, hd, rfl⟩
  · exact forall_ascii (P := fun c => escaped c = false → P c) hplain hascii hescaped
  · exact hpercent
  · exact hdigit d hd

theorem percentChar_cases (escaped : Char → Bool) (c : Char) :
    percentChar escaped c = [c] ∨ (percentChar escaped c).head? = some '%' := by
  rw [percentChar]
  split
  · exact .inl rfl
  · rcases utf8EncodeChar_cases c with ⟨-, hbytes⟩ | ⟨-, -, hbytes⟩ | ⟨-, -, hbytes⟩ |
      ⟨-, -, hbytes⟩ <;>
    · rw [hbytes]
      exact .inr rfl

/-- What is percent-encoded begins as it did, or with a percent sign. -/
theorem head?_percentEncode (escaped : Char → Bool) (c : Char) (text : List Char) :
    (percentEncode escaped (c :: text)).head? = some c ∨
      (percentEncode escaped (c :: text)).head? = some '%' := by
  rw [percentEncode, List.flatMap_cons]
  rcases percentChar_cases escaped c with hplain | hpercent
  · rw [hplain]
    exact .inl rfl
  · obtain ⟨rest, hrest⟩ := List.head?_eq_some_iff.1 hpercent
    rw [hrest]
    exact .inr rfl

end Text

/-- Whether a character can stand in an authority and has no meaning of its own there. -/
def Target.isBareChar (c : Char) : Bool :=
  isAuthorityChar c && !([':', '[', ']', '@'].contains c)

/-- Whether a character can stand in the name of a host. -/
def Host.isNameChar (c : Char) : Bool :=
  c.toNat < 0x80 && !isControl c && !isForbidden c

namespace Url

/-- Whether a character can stand in the name or the password of a user. -/
def isUserChar (c : Char) : Bool :=
  c == '%' || Target.isBareChar c

/-- Whether a character can stand in a segment of a path. -/
def isSegmentChar (c : Char) : Bool :=
  Target.isPathChar c && c != '/'

theorem isUserChar_percentEncode (text : List Char) :
    ∀ c ∈ percentEncode escapedInUser text, isUserChar c :=
  forall_mem_percentEncode (by decide) (by decide) (by decide) text

theorem isQueryChar_percentEncode (kind : Kind) (text : List Char) :
    ∀ c ∈ percentEncode (escapedInQuery kind) text, Target.isQueryChar c := by
  cases kind <;>
    exact forall_mem_percentEncode (by decide) (by decide) (by decide) text

end Url

/-! ## Hosts -/

/-- Whether a host is an address, or a name of characters that can stand in one. -/
def Host.IsEncoded : Host → Prop
  | .domain name => name ≠ [] ∧ ∀ c ∈ name, isNameChar c
  | _ => True

namespace Host

theorem isNameChar_of_isForbidden {c : Char} (hascii : c.toNat < 0x80)
    (h : Domain.isForbidden c = false) : isNameChar c :=
  forall_ascii (P := fun c => Domain.isForbidden c = false → isNameChar c) (by decide) hascii h

theorem isEncoded_readWeb {text : List Char} {host : Host} (h : readWeb text = .ok host) :
    host.IsEncoded := by
  rcases cases_of_readWeb h with ⟨ip, rfl⟩ | ⟨ip, rfl⟩ | ⟨name, source, rfl, hne, hname, -⟩
  · trivial
  · trivial
  · obtain ⟨hascii, hallowed⟩ := Domain.of_toAscii? hname
    exact ⟨hne, fun c hc =>
      isNameChar_of_isForbidden (Domain.isAscii_iff.1 hascii c hc) (hallowed c hc)⟩

end Host

namespace Host

theorem isEncoded_readOpaque {text : List Char} {host : Host} (hne : text ≠ [])
    (h : readOpaque text = .ok host) : host.IsEncoded := by
  rcases cases_of_readOpaque h with ⟨ip, rfl⟩ | ⟨name, rfl, hname⟩
  · trivial
  · refine ⟨?_, fun c hc => ?_⟩
    · rintro rfl
      unfold readOpaque at h
      split at h
      · obtain ⟨ip, hip⟩ := exists_of_readBracketed h
        cases hip
      · split at h
        · cases h
        · obtain ⟨c, rest, rfl⟩ := List.exists_cons_of_ne_nil hne
          have hhead := head?_percentEncode isControl c rest
          rw [Host.domain.inj (Except.ok.inj h)] at hhead
          simp at hhead
    · obtain ⟨hascii, hcontrol, hforbidden⟩ := hname c hc
      simp [isNameChar, hascii, hcontrol, hforbidden]

theorem IsEncoded.print_ne_nil {host : Host} (h : host.IsEncoded) : host.print ≠ [] := by
  cases host with
  | domain name => exact h.1
  | ipv4 ip => simp [print, Ipv4.print, joinWith]
  | ipv6 ip => simp [print]

end Host

namespace Url

theorem isEncoded_readHost {kind : Kind} {text : List Char} {host : Host}
    (h : readHost kind text = .ok (some host)) : host.IsEncoded := by
  unfold readHost at h
  split at h
  · cases h
  · next hne => exact Host.isEncoded_readOpaque hne (map_some_eq_ok_iff.1 h)
  · cases h
  · exact Host.isEncoded_readWeb (map_some_eq_ok_iff.1 h)

theorem isEncoded_readFileHost {text : List Char} {host : Host}
    (h : readFileHost text = .ok (some host)) : host.IsEncoded := by
  obtain ⟨-, name, hname⟩ : host.print ≠ "localhost".toList ∧
    ∃ text, Host.readWeb text = .ok host := isHostOf_of_readFileHost h
  exact Host.isEncoded_readWeb hname

/-! ## Authorities -/

/-- Whether the parts of an authority hold only what can stand there, and nothing stands in it
without a host. -/
structure Authority.IsEncoded (a : Authority) : Prop where
  user : ∀ c ∈ a.user, isUserChar c
  password : ∀ c ∈ a.password, isUserChar c
  host : ∀ host, a.host = some host → host.IsEncoded
  alone : a.host = none → a.print = []

theorem isEncoded_readAuthority {scheme text left : List Char} {atEnd : Bool} {a : Authority}
    (h : readAuthority scheme atEnd text = .ok (a, left)) : a.IsEncoded := by
  rw [readAuthority] at h
  simp only at h
  split at h
  · contradiction
  · split at h
    · contradiction
    · next host hhost =>
      split at h
      · contradiction
      · next hcolon =>
        split at h
        · contradiction
        · next port left hport =>
          split at h
          · contradiction
          · next hinfo =>
            cases h
            refine ⟨isUserChar_percentEncode _, isUserChar_percentEncode _, ?_, ?_⟩
            · rintro host rfl
              exact isEncoded_readHost hhost
            · rintro rfl
              have hnone : port = none := by
                unfold readPort at hport
                split at hport
                · next htext => simp [htext] at hcolon
                · cases hport
                  rfl
              simp only [Option.isNone_none, Bool.true_and, Bool.not_eq_true', Bool.not_eq_false,
                Bool.and_eq_true, List.isEmpty_iff] at hinfo
              rw [Authority.print]
              simp only [hinfo.1, hinfo.2, hnone]
              rfl

/-! ## Paths and queries -/

/-- Whether a segment holds only what can stand there. -/
def IsStep (segment : List Char) : Prop :=
  ∀ c ∈ segment, isSegmentChar c

instance (segment : List Char) : Decidable (IsStep segment) :=
  decidable_of_iff (segment.all isSegmentChar = true) List.all_eq_true

/-- Whether a path is made of such segments; one without a hierarchy does not begin as one with a
hierarchy. -/
def Path.IsEncoded : Path → Prop
  | .flat text => text.head? ≠ some '/'
  | .rooted segments => ∀ segment ∈ segments, IsStep segment

theorem isStep_nil : IsStep [] := by
  simp [IsStep]

/-- What is percent-encoded for a path is a segment if it has no slash, or if a slash is encoded
too. -/
theorem isStep_percentEncode {escaped : Char → Bool} {text : List Char}
    (hescaped : ∀ c, escapedInPath c → escaped c) (hslash : '/' ∈ text → escaped '/') :
    IsStep (percentEncode escaped text) := by
  have hdigit : ∀ d < 16, isSegmentChar (upperHexDigit d) := by decide
  have hplain : ∀ n < 0x80, escapedInPath (Char.ofNat n) = false → Char.ofNat n ≠ '/' →
      isSegmentChar (Char.ofNat n) := by decide
  intro c hc
  rcases of_mem_percentEncode hc with ⟨hmem, hascii, hkept⟩ | rfl | ⟨d, hd, rfl⟩
  · have hpath : escapedInPath c = false := by
      rw [Bool.eq_false_iff] at hkept ⊢
      exact fun h => hkept (hescaped c h)
    refine forall_ascii (P := fun c => escapedInPath c = false → c ≠ '/' → isSegmentChar c) hplain
      hascii hpath ?_
    rintro rfl
    rw [hslash hmem] at hkept
    contradiction
  · decide
  · exact hdigit d hd

theorem isStep_placed {kind : Kind} {before : List (List Char)} {segment : List Char}
    (h : IsStep segment) : IsStep (placed kind before segment) := by
  unfold placed
  split
  · split
    · exact List.forall_mem_cons.2
        ⟨(List.forall_mem_cons.1 h).1, List.forall_mem_singleton.2 (by decide)⟩
    · exact h
  · exact isStep_nil

variable {kind : Kind} {segments : List (List Char)}

theorem mem_of_mem_shorten {segment : List Char} (h : segment ∈ shorten segments) :
    segment ∈ segments := by
  rw [shorten] at h
  split at h
  · exact h
  · exact (List.dropLast_subset _) h

theorem isStep_addPieces {pieces : List (List Char)} (hsegments : ∀ s ∈ segments, IsStep s)
    (hpieces : ∀ s ∈ pieces, IsStep s) : ∀ s ∈ addPieces kind segments pieces, IsStep s := by
  have hshorten : ∀ {segments : List (List Char)}, (∀ s ∈ segments, IsStep s) →
      ∀ s ∈ shorten segments, IsStep s := fun h s hs => h s (mem_of_mem_shorten hs)
  have hend : ∀ {segments : List (List Char)} {last : List Char}, (∀ s ∈ segments, IsStep s) →
      IsStep last → ∀ s ∈ segments ++ [last], IsStep s := fun h hlast =>
    List.forall_mem_append.2 ⟨h, List.forall_mem_singleton.2 hlast⟩
  induction pieces generalizing segments with
  | nil => exact hsegments
  | cons piece rest ih =>
    obtain ⟨hpiece, hrest⟩ := List.forall_mem_cons.1 hpieces
    cases rest with
    | nil =>
      rw [addPieces]
      split
      · exact hend (hshorten hsegments) isStep_nil
      · split
        · exact hend hsegments isStep_nil
        · exact hend hsegments (isStep_placed hpiece)
    | cons next rest =>
      rw [addPieces]
      refine ih ?_ hrest
      split
      · exact hshorten hsegments
      · split
        · exact hsegments
        · exact hend hsegments (isStep_placed hpiece)

theorem isStep_trimmed (h : ∀ s ∈ segments, IsStep s) : ∀ s ∈ trimmed kind segments, IsStep s := by
  rw [trimmed]
  split
  · split
    · exact List.forall_mem_singleton.2 isStep_nil
    · exact fun s hs => h s ((List.dropWhile_suffix _).mem hs)
  · exact h

theorem isStep_readSegments (h : ∀ s ∈ segments, IsStep s) (text : List Char) :
    ∀ s ∈ readSegments kind segments text, IsStep s := by
  refine isStep_trimmed (isStep_addPieces h ?_)
  rw [List.forall_mem_map]
  intro piece hpiece
  refine isStep_percentEncode (fun _ h => h) fun hslash => ?_
  have hnot := of_mem_splitOn hpiece '/' hslash
  contradiction

theorem isStep_addSegment (h : ∀ s ∈ segments, IsStep s) (segment : List Char) :
    ∀ s ∈ addSegment kind segments segment, IsStep s := by
  rw [addSegment]
  split
  · exact h
  · refine isStep_trimmed (isStep_addPieces ?_ (List.forall_mem_singleton.2 ?_))
    · split
      · simp
      · exact h
    · exact isStep_percentEncode (fun c hc => by simp [escapedInSegment, hc])
        fun _ => by cases kind <;> decide

theorem isQueryChar_readSuffix {text query : List Char} (h : (readSuffix kind text).1 = some query) :
    ∀ c ∈ query, Target.isQueryChar c := by
  unfold readSuffix at h
  split at h
  · cases h
    exact isQueryChar_percentEncode kind _
  · cases h
  · cases h

/-! ## URLs -/

/-- Whether every part of a URL holds only what can stand there. -/
structure IsEncoded (url : Url) : Prop extends url.IsWritable where
  authority : ∀ a, url.authority = some a → a.IsEncoded
  path : url.path.IsEncoded
  query : ∀ query, url.query = some query → ∀ c ∈ query, Target.isQueryChar c

theorem IsEncoded.isStep {url : Url} (h : url.IsEncoded) :
    ∀ segment ∈ url.path.segmentList, IsStep segment := by
  have hpath := h.path
  cases hcases : url.path with
  | flat text => simp [Path.segmentList]
  | rooted segments =>
    rw [hcases] at hpath
    exact hpath

theorem IsEncoded.host_isEncoded {url : Url} (h : url.IsEncoded) {host : Host}
    (hhost : url.host? = some host) : host.IsEncoded := by
  obtain ⟨a, ha, hhost⟩ := Option.bind_eq_some_iff.1 hhost
  exact (h.authority a ha).host host hhost

theorem isEncoded_readPathAfter (kind : Kind) (text : List Char) :
    (readPathAfter kind text).IsEncoded := by
  unfold readPathAfter
  cases text with
  | nil =>
    intro segment hsegment
    simp only at hsegment
    split at hsegment
    · rw [List.mem_singleton.1 hsegment]
      exact isStep_nil
    · contradiction
  | cons c rest => exact isStep_readSegments (by simp) _

/-- What does not begin with a slash does not where it is percent-encoded. -/
theorem isEncoded_flat {text : List Char} (h : text.head? ≠ some '/') :
    (Path.flat (percentEncode Host.isControl (text.takeWhile (!endsPath ·)))).IsEncoded := by
  intro hslash
  cases text with
  | nil => simp [percentEncode] at hslash
  | cons c rest =>
    rw [List.takeWhile_cons] at hslash
    split at hslash
    · rcases head?_percentEncode Host.isControl c (rest.takeWhile (!endsPath ·)) with hfirst | hfirst
      · exact h (hfirst.symm.trans hslash)
      · rw [hfirst] at hslash
        contradiction
    · simp [percentEncode] at hslash

/-- What is read is encoded if what it is relative to is. -/
theorem IsRead.isEncoded {base : Option Url} {url : Url} (h : IsRead base url)
    (hbase : ∀ url, base = some url → url.IsEncoded) : url.IsEncoded := by
  refine ⟨h.isWritable fun url heq => (hbase url heq).toIsWritable, ?_, ?_, ?_⟩
  · cases h with
    | authority hscheme hread => exact fun a ha => Option.some.inj ha ▸ isEncoded_readAuthority hread
    | root hscheme => simp [complete]
    | flat hscheme hhead => simp [complete]
    | file hhost hbefore =>
      rintro a ⟨⟩
      refine ⟨by simp, by simp, fun read hread => ?_, fun hnone => ?_⟩
      · rcases hhost read hread with ⟨name, hname⟩ | ⟨url, heq, hsome⟩
        · exact isEncoded_readFileHost hname
        · exact (hbase url heq).host_isEncoded hsome
      · simp only at hnone
        rw [hnone]
        rfl
    | path heq hbefore => exact (hbase _ heq).authority
    | suffix heq => exact (hbase _ heq).authority
    | fragment heq => exact (hbase _ heq).authority
    | whole heq => exact (hbase _ heq).authority
  · cases h with
    | authority hscheme hread => exact isEncoded_readPathAfter _ _
    | root hscheme => exact isStep_readSegments (by simp) _
    | flat hscheme hhead => exact isEncoded_flat hhead
    | file hhost hbefore =>
      refine isStep_readSegments (fun segment hmem => ?_) _
      obtain ⟨url, heq, hsegment⟩ := hbefore segment hmem
      exact (hbase url heq).isStep segment hsegment
    | path heq hbefore =>
      exact isStep_readSegments
        (fun segment hmem => (hbase _ heq).isStep segment (hbefore segment hmem)) _
    | suffix heq => exact (hbase _ heq).path
    | fragment heq => exact (hbase _ heq).path
    | whole heq => exact (hbase _ heq).path
  · cases h with
    | authority hscheme hread => exact fun query hquery => isQueryChar_readSuffix hquery
    | root hscheme => exact fun query hquery => isQueryChar_readSuffix hquery
    | flat hscheme hhead => exact fun query hquery => isQueryChar_readSuffix hquery
    | file hhost hbefore => exact fun query hquery => isQueryChar_readSuffix hquery
    | path heq hbefore => exact fun query hquery => isQueryChar_readSuffix hquery
    | suffix heq => exact fun query hquery => isQueryChar_readSuffix hquery
    | fragment heq => exact (hbase _ heq).query
    | whole heq => exact (hbase _ heq).query

theorem isEncoded_parse {text : List Char} {url : Url} (h : parse text = .ok url) : url.IsEncoded :=
  (isRead_parse h).isEncoded (by simp)

theorem isEncoded_join {base url : Url} (hbase : base.IsEncoded) {text : List Char}
    (h : base.join text = .ok url) : url.IsEncoded :=
  (isRead_join hbase.isScheme h).isEncoded fun _ heq => Option.some.inj heq ▸ hbase

theorem mem_of_mem_withoutEnd {segment : List Char} (h : segment ∈ withoutEnd segments) :
    segment ∈ segments := by
  unfold withoutEnd at h
  split at h
  · split at h
    · exact (List.dropLast_subset _) h
    · exact h
  · exact h

theorem isEncoded_extend? {url extended : Url} (h : url.IsEncoded) {more : List (List Char)}
    (hextend : url.extend? more = some extended) : extended.IsEncoded := by
  unfold extend? at hextend
  split at hextend
  · contradiction
  · next segments hpath =>
    cases hextend
    have hadded : ∀ {segments : List (List Char)}, (∀ s ∈ segments, IsStep s) →
        ∀ s ∈ more.foldl (addSegment (Url.kind url.scheme)) segments, IsStep s := by
      induction more with
      | nil => exact fun h => h
      | cons segment more ih => exact fun h => ih (isStep_addSegment h segment)
    refine ⟨⟨h.isScheme, h.isWithin, fun _ => ⟨_, rfl⟩⟩, h.authority, hadded fun s hs => ?_, h.query⟩
    have hstep := h.isStep s
    rw [hpath] at hstep
    exact hstep (mem_of_mem_withoutEnd hs)

end Url

/-- Where a peer opens transactions is a URL whose parts hold only what can stand there. -/
theorem Transaction.isEncoded_openUrl {peer port : String} {url : Url}
    (h : openUrl peer port = .ok url) : url.IsEncoded := by
  rw [openUrl] at h
  split at h
  · contradiction
  · next place hparse =>
    split at h
    · contradiction
    · next extended hextend =>
      cases h
      exact Url.isEncoded_extend? (Url.isEncoded_parse hparse) hextend

end FlowPeers
