/-!
# Why a text is no URL

The causes for which a text is refused as a URL, and the wording of each.
-/

namespace FlowPeers

/-- A cause for refusing a text as a URL, or a change to one. -/
inductive UrlError
  /-- The host is empty where one is needed. -/
  | emptyHost
  /-- The host has no form as a domain name. -/
  | badDomainName
  /-- The port is no number up to 65535. -/
  | badPort
  /-- The host ends in a number and is no address of version 4. -/
  | badIpv4
  /-- The host stands in brackets and is no address of version 6. -/
  | badIpv6
  /-- The host has a character that no host may hold. -/
  | badHostCharacter
  /-- The text names no scheme and there is nothing that it could be relative to. -/
  | relativeWithoutBase
  /-- What the text is relative to has no hierarchy. -/
  | relativeToOpaque
  /-- A URL without a hierarchy takes no host. -/
  | hostOnOpaque
  /-- The text is too long. -/
  | tooLong
  deriving DecidableEq, Repr

/-- The wording of a cause. -/
def UrlError.message : UrlError → String
  | .emptyHost => "empty host"
  | .badDomainName => "invalid international domain name"
  | .badPort => "invalid port number"
  | .badIpv4 => "invalid IPv4 address"
  | .badIpv6 => "invalid IPv6 address"
  | .badHostCharacter => "invalid domain character"
  | .relativeWithoutBase => "relative URL without a base"
  | .relativeToOpaque => "relative URL with a cannot-be-a-base base"
  | .hostOnOpaque => "a cannot-be-a-base URL doesn’t have a host to set"
  | .tooLong => "URLs more than 4 GB are not supported"

end FlowPeers
