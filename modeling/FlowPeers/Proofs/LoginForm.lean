import FlowPeers.Proofs.PortSegment
import FlowPeers.Proofs.Secrecy
import FlowPeers.Proofs.Tokens

/-!
# Logins as forms

The body of a request for a token is a form of two fields. What a form says is read back from it,
whatever the names and the values of its fields are (`Text.Form.readFields_encodeFields`): a part of a
field is read back since a plus sign in it is a space and nothing else is
(`Text.Form.decodePart_encodePart`), and fields are told apart since no part holds a separator
(`Text.Form.of_mem_encodePart`). So a login says who logs in and nothing else, in every run
(`Tracker.logins_say_who_logs_in`).
-/

namespace FlowPeers

open Dialogue Text

theorem Text.decodeLossy_encode (s : List Char) : decodeLossy (encode s) = s := by
  rw [decodeLossy, decode_encode, List.map_map]
  exact List.map_id s

namespace Text.Form

/-! ## Names and values -/

/-- A character that stands for itself is neither a plus sign nor a separator. -/
theorem ne_of_isPlain {c : Char} (h : isPlain c) : c ≠ '+' ∧ c ≠ '&' ∧ c ≠ '=' := by
  refine ⟨?_, ?_, ?_⟩ <;>
  · rintro rfl
    contradiction

theorem upperHexDigit_ne : ∀ d < 16,
    upperHexDigit d ≠ '+' ∧ upperHexDigit d ≠ '&' ∧ upperHexDigit d ≠ '=' := by
  decide

/-- What is encoded holds no separator, and a plus sign only for a space. -/
theorem of_mem_percentChar {c d : Char} (h : d ∈ percentChar (!isPlain ·) c) :
    d ≠ '+' ∧ d ≠ '&' ∧ d ≠ '=' := by
  rw [← List.flatMap_singleton (percentChar (!isPlain ·)), ← percentEncode] at h
  rcases of_mem_percentEncode h with ⟨-, -, hplain⟩ | rfl | ⟨digit, hdigit, rfl⟩
  · exact ne_of_isPlain (by simpa using hplain)
  · decide
  · exact upperHexDigit_ne digit hdigit

theorem of_mem_encodePart {s : List Char} {d : Char} (h : d ∈ encodePart s) : d ≠ '&' ∧ d ≠ '=' := by
  obtain ⟨c, -, hd⟩ := List.mem_flatMap.1 h
  split at hd
  · rw [List.mem_singleton.1 hd]
    decide
  · exact (of_mem_percentChar hd).2

/-- A part with its plus signs put back into spaces is the text in which the spaces are left as they
are and all else is encoded. -/
theorem map_space_encodePart (s : List Char) :
    (encodePart s).map (fun c => if c == '+' then ' ' else c) =
      percentEncode (fun c => !isPlain c && c != ' ') s := by
  rw [encodePart, percentEncode, List.map_flatMap]
  refine List.flatMap_congr fun c _ => ?_
  by_cases hspace : c = ' '
  · subst hspace
    decide
  · have hsame : ∀ d ∈ percentChar (!isPlain ·) c, (if d == '+' then ' ' else d) = d :=
      fun d hd => if_neg (by simpa using (of_mem_percentChar hd).1)
    rw [if_neg (by simpa using hspace), List.map_congr_left hsame, List.map_id']
    simp [percentChar, hspace]

/-- A name or a value is read back. -/
theorem decodePart_encodePart (s : List Char) : decodePart (encodePart s) = s := by
  rw [decodePart, map_space_encodePart, percentDecode_percentEncode (by decide),
    decodeLossy_encode]

/-! ## Fields -/

theorem readField_encodeField (field : List Char × List Char) :
    readField (encodeField field) = field := by
  have hname : ∀ c ∈ encodePart field.1, (c != '=') = true := fun c hc =>
    bne_iff_ne.2 (of_mem_encodePart hc).2
  rw [readField, encodeField, List.takeWhile_append_of_pos hname,
    List.dropWhile_append_of_pos hname]
  simp [decodePart_encodePart]

theorem encodeFields_eq_joinWith (fields : List (List Char × List Char)) :
    encodeFields fields = joinWith ['&'] (fields.map encodeField) := by
  induction fields with
  | nil => rfl
  | cons field fields ih =>
    cases fields with
    | nil => rfl
    | cons next fields =>
      rw [encodeFields, ih]
      exact (List.append_assoc (encodeField field) ['&'] _).symm

theorem not_mem_encodeField (field : List Char × List Char) : '&' ∉ encodeField field := by
  intro h
  rcases List.mem_append.1 h with h | h
  · exact (of_mem_encodePart h).1 rfl
  · rcases List.mem_cons.1 h with h | h
    · contradiction
    · exact (of_mem_encodePart h).1 rfl

/-- **A form is read back.** The fields are those that were written, in order. -/
theorem readFields_encodeFields (fields : List (List Char × List Char)) :
    readFields (encodeFields fields) = fields := by
  rw [readFields, encodeFields_eq_joinWith]
  by_cases hnil : fields = []
  · subst hnil
    rfl
  · have hfree : ∀ piece ∈ fields.map encodeField, '&' ∉ piece :=
      List.forall_mem_map.2 fun field _ => not_mem_encodeField field
    have hfilled : ∀ piece ∈ fields.map encodeField, (!piece.isEmpty) = true :=
      List.forall_mem_map.2 fun field _ => by simp [encodeField]
    rw [splitOn_joinWith (by simpa using hnil) hfree, List.filter_eq_self.2 hfilled, List.map_map]
    exact (List.map_congr_left fun field _ => readField_encodeField field).trans (List.map_id _)

end Text.Form

/-! ## Logins -/

namespace Logins

/-- The fields of the form in which somebody logs in. -/
def fields (credentials : Credentials) : List (List Char × List Char) :=
  [("username".toList, credentials.username.toList), ("password".toList, credentials.password.toList)]

/-- The body of a request for a token says who logs in. -/
theorem readFields_of_tokenRequest {credentials : Credentials} {url : String} {request : Request}
    (h : tokenRequest credentials url = .ok request) :
    ∃ body, request.body.read = .ok body ∧
      Form.readFields (decodeLossy body) = fields credentials := by
  obtain ⟨target, -, rfl⟩ := Request.eq_of_toUrl_eq_ok h
  refine ⟨_, rfl, ?_⟩
  rw [decodeLossy_encode]
  exact Form.readFields_encodeFields (fields credentials)

theorem fields_inj {credentials credentials' : Credentials}
    (h : fields credentials = fields credentials') : credentials = credentials' := by
  obtain ⟨username, password⟩ := credentials
  obtain ⟨username', password'⟩ := credentials'
  simpa [fields, String.toList_inj] using h

end Logins

namespace Tracker

/-- Whoever a tracker is connected for is who logs in whenever somebody does. -/
theorem exists_tokenRequest_of_isLogin {raw : List String} {interval : Duration}
    {username password : Option String} {saved : Option PeerStatus} {now : UInt64}
    {log : List Exchanged} {outcome : Except Failure Tracker} {acts : List Act}
    (hconnect : (connect raw interval (.start username password) saved now).Runs log outcome)
    (hacts : Follows acts outcome) :
    ∀ x ∈ log ++ acts.flatMap Act.log, x.request.IsLogin → ∃ credentials url,
      (Logins.start username password).credentials = some credentials ∧
        Logins.tokenRequest credentials url = .ok x.request := by
  obtain ⟨start, opening, t, hstart, rfl, hcourse⟩ := exists_course_of_runs_connect hconnect hacts
  obtain ⟨deeds, hdeeds, hdone⟩ := exists_chronicle hcourse
  intro x hx hlogin
  have hlog : (deeds.flatMap Deed.calls).flatMap (·.log) =
      opening.flatMap Act.log ++ acts.flatMap Act.log := by
    rw [← List.flatMap_append, ← hdone, List.flatMap_map, List.flatMap_assoc]
    simp only [Deed.transcript_calls]
  rw [← hlog] at hx
  obtain ⟨c, hc, hx⟩ := List.mem_flatMap.1 hx
  obtain ⟨hkeeps, hproper⟩ := hdeeds.calls.of_mem hc
  rcases hproper.request_cases hx with ⟨credentials, hsome, hrequest, -⟩ | ⟨hrequest, -⟩
  · rw [hkeeps.credentials, hstart] at hsome
    exact ⟨credentials, c.url, hsome, hrequest⟩
  · obtain ⟨credentials, url, htoken⟩ := hlogin
    exact absurd htoken (hrequest.tokenRequest_ne credentials url)

/-- **Logins say who logs in.** Let a tracker be connected for a user, with or without a password and
with or without success, and then do anything with it. Then the body of every request for a token,
read as a form, is the name of the user and the password, which is empty if there is none, and
nothing else. So a request for a token for anybody else has another body. -/
theorem logins_say_who_logs_in {raw : List String} {interval : Duration} {username : String}
    {password : Option String} {saved : Option PeerStatus} {now : UInt64} {log : List Exchanged}
    {outcome : Except Failure Tracker} {acts : List Act}
    (hconnect : (connect raw interval (.start (some username) password) saved now).Runs log outcome)
    (hacts : Follows acts outcome) :
    ∀ x ∈ log ++ acts.flatMap Act.log, x.request.IsLogin →
      (∃ body, x.request.body.read = .ok body ∧ Form.readFields (decodeLossy body) =
        [("username".toList, username.toList), ("password".toList, (password.getD "").toList)]) ∧
      ∀ credentials url request, Logins.tokenRequest credentials url = .ok request →
        request.body = x.request.body → credentials = ⟨username, password.getD ""⟩ := by
  intro x hx hlogin
  obtain ⟨_, url, hsome, hrequest⟩ := exists_tokenRequest_of_isLogin hconnect hacts x hx hlogin
  cases hsome
  obtain ⟨body, hbody, hfields⟩ := Logins.readFields_of_tokenRequest hrequest
  refine ⟨⟨body, hbody, hfields⟩, ?_⟩
  intro credentials url' request hrequest' hsame
  obtain ⟨body', hbody', hfields'⟩ := Logins.readFields_of_tokenRequest hrequest'
  rw [hsame, hbody] at hbody'
  cases hbody'
  exact Logins.fields_inj (hfields'.symm.trans hfields)

/-- A user whose name has all the marks of a form in it logs in without a password. -/
theorem login_with_marks_in_name : ∃ log outcome,
    (connect ["http://[::1]:80"] (.ofSeconds 1) (.start (some "a&password=b +%é") none) none 0).Runs
      log outcome ∧
    ∃ x ∈ log, x.request.IsLogin ∧ ∃ body, x.request.body.read = .ok body ∧
      Form.readFields (decodeLossy body) =
        [("username".toList, "a&password=b +%é".toList), ("password".toList, [])] := by
  have hsends : (match connect ["http://[::1]:80"] (.ofSeconds 1)
        (.start (some "a&password=b +%é") none) none 0 with
      | Dialogue.send request _ => decide ((Logins.tokenRequest ⟨"a&password=b +%é", ""⟩
          "http://[::1]:80/nifi-api").toOption = some request)
      | Dialogue.done _ => false) = true := by
    decide +kernel
  split at hsends
  · next request next hdialogue =>
    have hrequest := eq_ok_of_toOption (of_decide_eq_true hsends)
    obtain ⟨log, outcome, hrun, -⟩ := exists_runs (fun _ _ => .error .noPeers)
      (next (.error .noPeers))
    have hconnect : (Dialogue.send request next).Runs (⟨request, .error .noPeers⟩ :: log) outcome :=
      .send hrun
    rw [← hdialogue] at hconnect
    have hfollows : Follows [] outcome := by
      cases outcome with
      | error failure => rfl
      | ok t => exact ⟨t, .rest⟩
    have hlogin : request.IsLogin := ⟨_, _, hrequest⟩
    obtain ⟨hbody, -⟩ := logins_say_who_logs_in hconnect hfollows _ (List.mem_cons_self ..) hlogin
    exact ⟨_, outcome, hconnect, _, List.mem_cons_self .., hlogin, hbody⟩
  · contradiction

end Tracker

end FlowPeers
