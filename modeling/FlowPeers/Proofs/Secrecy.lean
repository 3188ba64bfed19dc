import FlowPeers.Config
import FlowPeers.Network.Script
import FlowPeers.Proofs.Cues

/-!
# Where a password shows

A password is in the body of a request for a token, and nowhere else. Two runs with configurations
that differ in it are the same but for these bodies, on networks whose replies do not depend on them
(`Responder.IgnoresLoginBodies`).

**`Session.password_shows_only_in_logins`** says so for whatever is done: commands give the same,
failures and their texts included, and statuses, what is saved, tokens, jobs and all other requests
with their times are the same. Nor does the text of a configuration tell its password.
-/

namespace FlowPeers

variable {σ σ' : Type} {R : σ → σ' → Prop} {net : Responder σ} {net' : Responder σ'}

/-! ## Requests for tokens -/

namespace Request

/-- Whether a request asks for a token. -/
def IsLogin (request : Request) : Prop :=
  ∃ credentials url, Logins.tokenRequest credentials url = .ok request

/-- Whether requests are the same, or ask for a token and are the same but for their bodies. -/
def SameButForLogin (request request' : Request) : Prop :=
  request' = request ∨
    request.IsLogin ∧ request'.IsLogin ∧ request' = { request with body := request'.body }

theorem IsLogin.exists_body {request : Request} (h : request.IsLogin) :
    ∃ bytes, request.body = .whole bytes := by
  obtain ⟨credentials, url, hrequest⟩ := h
  rw [Logins.tokenRequest, toUrl] at hrequest
  split at hrequest
  · contradiction
  · cases hrequest
    exact ⟨_, rfl⟩

/-- Requests for a token from the same address are the same but for their bodies. -/
theorem sameButForLogin_tokenRequest {c c' : Credentials} {url : String}
    {request request' : Request} (hrequest : Logins.tokenRequest c url = .ok request)
    (hrequest' : Logins.tokenRequest c' url = .ok request') : request.SameButForLogin request' := by
  refine .inr ⟨⟨c, url, hrequest⟩, ⟨c', url, hrequest'⟩, ?_⟩
  rw [Logins.tokenRequest, toUrl] at hrequest hrequest'
  split at hrequest
  · contradiction
  · next target htarget =>
    rw [htarget] at hrequest'
    cases hrequest
    cases hrequest'
    rfl

end Request

/-- Whether networks, whose states are related, deliver the same for requests that are the same but
for the bodies of those for tokens. -/
structure Responder.IgnoresLoginBodies (R : σ → σ' → Prop) (net : Responder σ)
    (net' : Responder σ') : Prop where
  network : ∀ now (request request' : Request) n n', request.SameButForLogin request' → R n n' →
    R (net now request n).1 (net' now request' n').1
  delivery : ∀ now (request request' : Request) n n', request.SameButForLogin request' → R n n' →
    (net' now request' n').2 = (net now request n).2

/-- Two runs with the same user name may differ in the password, and in the bodies of requests for
tokens. -/
def Discrepancy.inPasswords : Discrepancy where
  credentials := fun c c' => c'.username = c.username
  requests := Request.SameButForLogin
  replies := fun _ reply reply' => reply = reply'
  requests_refl := fun _ => .inl rfl
  requests_login := fun _ => Request.sameButForLogin_tokenRequest
  eq_of_replies := fun h _ => h

theorem Discrepancy.isExact_inPasswords : inPasswords.IsExact :=
  fun _ _ _ h => h

theorem Responder.IgnoresLoginBodies.corresponds (h : net.IgnoresLoginBodies R net') :
    net.Corresponds .inPasswords R net' where
  network := h.network
  delay := fun now request request' n n' hrequest hn =>
    congrArg Delivery.delay (h.delivery now request request' n n' hrequest hn)
  reply := fun now request request' n n' hrequest hn =>
    (congrArg Delivery.reply (h.delivery now request request' n n' hrequest hn)).symm

/-- A script answers by method and address, whatever a whole body says. -/
theorem Script.ignoresLoginBodies : Script.responder.IgnoresLoginBodies Eq Script.responder := by
  have hsame : ∀ now (request request' : Request) script, request.SameButForLogin request' →
      Script.responder now request' script = Script.responder now request script := by
    rintro now request request' script (rfl | ⟨hlogin, hlogin', hrequest⟩)
    · rfl
    · obtain ⟨bytes, hbody⟩ := hlogin.exists_body
      obtain ⟨bytes', hbody'⟩ := hlogin'.exists_body
      rw [hbody'] at hrequest
      subst hrequest
      rw [Script.responder, Script.responder, hbody]
      rfl
  refine ⟨?_, ?_⟩
  · rintro now request request' script _ hrequest rfl
    rw [hsame now request request' script hrequest]
  · rintro now request request' script _ hrequest rfl
    rw [hsame now request request' script hrequest]

/-! ## The main result -/

namespace Config

/-- The configuration with another password. -/
def withPassword (c : Config) (password : String) : Config :=
  { c with password := some password }

theorem corresponds_logins (c : Config) (password password' : String) :
    (c.withPassword password).logins.Corresponds .inPasswords (c.withPassword password').logins := by
  refine ⟨?_, rfl⟩
  rw [logins, logins, Logins.start, Logins.start, withPassword, withPassword]
  cases c.username with
  | none => exact .none
  | some username => exact .some rfl

end Config

namespace Session

/-- **The password shows only in requests for tokens.** Let a tracker be connected with two
configurations that differ in the password, on networks whose replies do not depend on the bodies of
requests for tokens, and let the same be done with it on both. Then

* the texts of the configurations are the same;
* connecting ends in the same way, and all commands give the same, failures included;
* after that the sessions correspond: the statuses, what is saved, the tokens, the jobs and the
  transactions are the same, and so is all that was sent with its times, but for the bodies of requests
  for tokens;
* this holds for whatever the user of the session does, and for moves in any order. -/
theorem password_shows_only_in_logins (hnet : net.IgnoresLoginBodies R net') {n : σ} {n' : σ'}
    (hn : R n n') (c : Config) (password password' : String) (epoch : Int)
    (saved : Option PeerStatus) (raw : List String) :
    let c₁ := c.withPassword password
    let c₂ := c.withPassword password'
    let first := (start epoch n saved).connect net raw c₁.peerUpdateInterval c₁.logins
    let second := (start epoch n' saved).connect net' raw c₂.peerUpdateInterval c₂.logins
    c₂.text = c₁.text ∧
    (second.2 = first.2 ∧ first.1.Corresponds .inPasswords R second.1) ∧
    (∀ steps : List Step,
      (second.1.follow net' steps).2 = (first.1.follow net steps).2 ∧
      (first.1.follow net steps).1.Corresponds .inPasswords R (second.1.follow net' steps).1) ∧
    ∀ cues : List Scene.Cue,
      let played := Scene.play net ⟨first.1, none⟩ cues
      let played' := Scene.play net' ⟨second.1, none⟩ cues
      played'.2 = played.2 ∧ played.1.Corresponds .inPasswords R played'.1 := by
  have hstart : (start epoch n saved).Corresponds .inPasswords R (start epoch n' saved) :=
    ⟨rfl, rfl, ⟨hn, .nil⟩, rfl, .none, rfl, rfl, rfl, rfl⟩
  obtain ⟨hconnected, hresult⟩ := hstart.connect hnet.corresponds
    (c.corresponds_logins password password') raw c.peerUpdateInterval
  refine ⟨rfl, ⟨hresult, hconnected⟩, fun steps => ?_, fun cues => ?_⟩
  · obtain ⟨hafter, houtcomes⟩ := hconnected.follow hnet.corresponds steps
    exact ⟨houtcomes.eq fun _ _ _ h => h fun _ => Discrepancy.isExact_inPasswords, hafter⟩
  · have hscene : Scene.Corresponds .inPasswords R
        ⟨((start epoch n saved).connect net raw c.peerUpdateInterval
          (c.withPassword password).logins).1, none⟩
        ⟨((start epoch n' saved).connect net' raw c.peerUpdateInterval
          (c.withPassword password').logins).1, none⟩ :=
      ⟨hconnected, .none⟩
    obtain ⟨hafter, houtcomes⟩ := hscene.play hnet.corresponds cues
    exact ⟨houtcomes.eq fun _ _ _ h => h fun _ => Discrepancy.isExact_inPasswords, hafter⟩

/-- A script that grants a token to everybody, and serves nothing else. -/
def grantingScript : Script :=
  [{ method := some "POST"
     ending := some Logins.tokenPath
     replies := [(10, .response { status := .created, headers := [], body := .ofText ['t'] })] }]

/-- Two users with the same name log in, refresh their lists and look a port up, both in vain. Their
passwords show in the bodies of the logins, and nothing else tells them apart. -/
theorem password_shows_in_login_only :
    let c : Config := { username := some "user" }
    let saved : PeerStatus := ⟨[⟨"http://[::1]:80/nifi-api", 0, false⟩], 0⟩
    let ended (password : String) :=
      ((start 0 grantingScript (some saved)).connect Script.responder ["http://[::1]:80"]
        c.peerUpdateInterval (c.withPassword password).logins).1.follow Script.responder
          [.one (.operate .refresh), .one (.operate (.resolvePort "in"))]
    Script.responder.IgnoresLoginBodies Eq Script.responder ∧
    (ended "a").1.traffic.log.map (·.request.body) =
      [.ofText "username=user&password=a".toList, .empty, .empty] ∧
    (ended "b").1.traffic.log.map (·.request.body) =
      [.ofText "username=user&password=b".toList, .empty, .empty] ∧
    (ended "b").2 = (ended "a").2 ∧
    (ended "a").1.Corresponds .inPasswords Eq (ended "b").1 := by
  intro c saved ended
  obtain ⟨-, -, hsteps, -⟩ := password_shows_only_in_logins Script.ignoresLoginBodies
    (rfl : grantingScript = grantingScript) c "a" "b" 0 (some saved) ["http://[::1]:80"]
  exact ⟨Script.ignoresLoginBodies, by decide +kernel, by decide +kernel, hsteps _⟩

end Session

end FlowPeers
