import FlowPeers.Http.Message
import FlowPeers.SocketAddress

/-!
# Peers that serve fixed answers

A peer server stands in for one peer: every method and path that it has a route for gets a fixed
answer, and all else is not found. It writes down every request that it receives.
-/

namespace FlowPeers

open Text

/-- A fixed answer to a method and a path. -/
structure Route where
  /-- The method. -/
  method : String
  /-- The path, without a query and as it is written. -/
  path : String
  /-- The answer. -/
  response : Response
  deriving DecidableEq, Repr

/-- A server of fixed answers. -/
structure PeerServer where
  /-- Where it listens. -/
  address : SocketAddress
  /-- Its routes, the latest first. -/
  routes : List Route := []
  /-- The requests that it received, in order. -/
  received : List Request := []
  /-- Whether it was shut down. -/
  isShutDown : Bool := false
  deriving DecidableEq, Repr

namespace PeerServer

/-- The address as a peer. -/
def url (server : PeerServer) : String :=
  String.ofList server.address.peerUrl

/-- Headers with another one, which takes the place of those of its name. -/
def setHeader (headers : List Header) (header : Header) : List Header :=
  headers.filter (·.name != header.name) ++ [header]

/-- Headers that are given as texts; those that are none are left out, and of several with one name
the last remains. -/
def readHeaders (headers : List (String × String)) : List Header :=
  (headers.filterMap fun header => (Header.read header.1 (encode header.2.toList)).toOption).foldl
    setHeader []

/-- The server with a route, which takes the place of an earlier one for its method and path. -/
def route (server : PeerServer) (route : Route) : PeerServer :=
  { server with routes := route :: server.routes }

/-- The path that a request asks for. -/
def path (request : Request) : String :=
  String.ofList request.target.pathText

/-- The answer to what a server has no route for. -/
def notFound : Response where
  status := .notFound
  headers := []
  body := .ofText "Not Found".toList

/-- Receives a request and answers it. -/
def serve (server : PeerServer) (request : Request) : PeerServer × Response :=
  ({ server with received := server.received ++ [request] },
    match server.routes.find? fun route =>
        route.method == request.method && route.path == path request with
    | some route => route.response
    | none => notFound)

/-- How many requests of a method and a path the server has received. -/
def hits (server : PeerServer) (method asked : String) : Nat :=
  server.received.countP fun request => request.method == method && path request == asked

/-- The server after it was shut down. -/
def shutDown (server : PeerServer) : PeerServer :=
  { server with isShutDown := true }

end PeerServer

end FlowPeers
