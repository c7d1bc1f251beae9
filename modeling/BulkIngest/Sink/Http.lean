import BulkIngest.Http.Exchange
import BulkIngest.Sink.BulkResponse

/-!
A search service behind HTTP: one request to its bulk address for each batch. It is asked for once
before anything is sent, so a service that does not answer is found out early.
-/

namespace BulkIngest

structure HttpSinkConfig where
  url : String
  compress : Bool
  connectTimeoutSecs : UInt64
  requestTimeoutSecs : UInt64
deriving DecidableEq

structure HttpSink where
  bulkUrl : String
  compress : Bool
  requestTimeout : Duration
deriving DecidableEq

namespace HttpSink

/-- An address without slashes at its end. -/
def baseUrl (url : String) : String :=
  String.ofList (url.toList.reverse.dropWhile (· = '/')).reverse

def ping (url : Url) : HttpRequest := ⟨.get, url, none, false, []⟩

/-- Whether the service is there and content with being asked. -/
def knock (network : Network) (base : String) : Except Trouble Unit :=
  let nobody := s!"💀 Knocked on '{base}' and nobody answered. Is the cluster up? Is the URL right?"
  match Http.address base with
  | .error trouble => .error (trouble.within nobody)
  | .ok url =>
    match network (ping url) with
    | .response status _ | .truncated status =>
      if Http.isSuccess status then .ok ()
      else
        let answer := Http.statusText status
        .error (.of (s!"💀 '{base}' answered the connectivity ping with HTTP {answer}. " ++
          "It's alive, but it doesn't like us."))
    | .lost causes => .error ((Http.sendTrouble url causes).within nobody)
    | .timedOut => .error ((Http.sendTrouble url ["operation timed out"]).within nobody)

def «open» (network : Network) (config : HttpSinkConfig) : Except Trouble HttpSink :=
  let base := baseUrl config.url
  (knock network base).map fun () =>
    ⟨base ++ "/_bulk", config.compress, .ofSeconds config.requestTimeoutSecs⟩

def request (sink : HttpSink) (url : Url) (batch : Batch) : HttpRequest :=
  ⟨.post, url, some "application/x-ndjson", sink.compress, Text.bytes batch.ndjson⟩

/-- What a reply to a bulk request says about the items. -/
def interpret (sink : HttpSink) (url : Url) : HttpReply → Except TransportError (List ItemStatus)
  | .response status body =>
    if Http.isSuccess status then BulkResponse.decode body
    else .error (.status status (Text.repaired body))
  | .truncated _ => .error (.connection (Http.bodyTrouble url).message)
  | .lost causes => .error (.connection (Http.sendTrouble url causes).message)
  | .timedOut => .error (.timeout sink.requestTimeout)

def bulk (network : Network) (sink : HttpSink) (batch : Batch) :
    Except TransportError (List ItemStatus) :=
  match Http.address sink.bulkUrl with
  | .error trouble => .error (.connection trouble.message)
  | .ok url => sink.interpret url (network (sink.request url batch))

end HttpSink

end BulkIngest
