import FlowPeers.Network.Basic

/-!
# Scripted networks

A script is a list of rules. The first rule that fits a request answers it, its first reply going to
the first request that it answers and so on, and its last reply to all that follow. A request that
no rule fits is for something that is not there.
-/

namespace FlowPeers

/-- What a script says in reply. -/
inductive ScriptedReply where
  /-- The connection is refused. -/
  | refused
  /-- The reply does not come in time. -/
  | timeout
  /-- The connection fails. -/
  | transport (cause : String)
  /-- A response. -/
  | response (response : Response)
  /-- A response that cannot be made. -/
  | malformed (cause : RequestError)
  deriving DecidableEq, Repr

/-- The reply to a request for a URL. -/
def ScriptedReply.reply (url : String) : ScriptedReply → Reply
  | .refused => .error (.transport url "Connection refused")
  | .timeout => .error (.timeout url)
  | .transport cause => .error (.transport url cause)
  | .response answer => .ok answer
  | .malformed cause => .error (.request cause)

/-- A rule of a script; what it leaves open fits every request. -/
structure Rule where
  /-- The method. -/
  method : Option String := none
  /-- The whole URL. -/
  url : Option String := none
  /-- How the URL begins. -/
  start : Option String := none
  /-- How the URL ends. -/
  ending : Option String := none
  /-- The replies and how long each takes. -/
  replies : List (Nat × ScriptedReply)
  /-- How many requests the rule has answered. -/
  used : Nat := 0
  deriving Repr

namespace Rule

/-- Whether the rule answers a request. -/
def fits (rule : Rule) (method url : String) : Bool :=
  rule.method.all (· == method) && rule.url.all (· == url)
    && rule.start.all (fun start => start.toList.isPrefixOf url.toList)
    && rule.ending.all (fun ending => ending.toList.isSuffixOf url.toList)

/-- The next reply of a rule. -/
def next? (rule : Rule) : Option (Nat × ScriptedReply) :=
  rule.replies[min rule.used (rule.replies.length - 1)]?

end Rule

/-- A script. -/
abbrev Script : Type := List Rule

namespace Script

/-- What is replied where no rule fits. -/
def notFound : ScriptedReply :=
  .response { status := .notFound, headers := [], body := .empty }

/-- The script after a request, and the reply to it. -/
def answer (method url : String) : Script → Script × Nat × ScriptedReply
  | [] => ([], 0, notFound)
  | rule :: rest =>
    if rule.fits method url then
      ({ rule with used := rule.used + 1 } :: rest, rule.next?.getD (0, notFound))
    else
      let (rest, reply) := answer method url rest
      (rule :: rest, reply)

/-- The network of a script. It receives a request only when it has the whole body. -/
def responder : Responder Script := fun _ request script =>
  match request.body.read with
  | .error cause => (script, ⟨0, .error (.transport request.url cause)⟩)
  | .ok _ =>
    let (script, delay, reply) := answer request.method request.url script
    (script, ⟨delay, reply.reply request.url⟩)

/-- The requests that a script has received, out of those that were sent. -/
def received (log : List Sent) : List Request :=
  (log.map (·.request)).filter (·.body != .broken)

/-- How many requests of a method and a URL a script has received. -/
def count (log : List Sent) (method url : String) : Nat :=
  (received log).countP fun request => request.method == method && request.url == url

end Script

end FlowPeers
