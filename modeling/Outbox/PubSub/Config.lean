import Outbox.Text.Quoted
import Outbox.Time.Duration

/-!
# The Pub/Sub service and how to reach it

* `PubSub.Config`         project, endpoint, access token and time limit;
* `Config.ofProject`      the public service, without a token;
* `Config.emulator`       plain HTTP to a host, without a token;
* `Config.publishUrl`     where messages for a topic are sent;
* `Config.debugText`      the settings for a log, the token left out.
-/

namespace Outbox.PubSub

structure Config where
  projectId : String
  endpoint : String
  /-- sent as a bearer token -/
  accessToken : Option String
  requestTimeout : Duration
  deriving DecidableEq, Repr, Inhabited

namespace Config

def standardEndpoint : String := "https://pubsub.googleapis.com"

def ofProject (projectId : String) : Config :=
  { projectId, endpoint := standardEndpoint, accessToken := none, requestTimeout := .ofSecs 10 }

def emulator (projectId host : String) : Config :=
  { ofProject projectId with endpoint := "http://" ++ host }

/-- without the slashes at its end -/
def baseUrl (c : Config) : String :=
  String.ofList (c.endpoint.toList.reverse.dropWhile (· = '/')).reverse

def publishUrl (c : Config) (topic : String) : String :=
  c.baseUrl ++ "/v1/projects/" ++ c.projectId ++ "/topics/" ++ topic ++ ":publish"

/-- Only whether there is a token is told. -/
def debugText (c : Config) : String :=
  "PubSubConfig \x7b project_id: " ++ Text.quote c.projectId ++
    ", endpoint: " ++ Text.quote c.endpoint ++
    ", access_token: " ++ (if c.accessToken.isSome then "Some(\"[REDACTED]\")" else "None") ++
    ", request_timeout: " ++ c.requestTimeout.text ++ " \x7d"

end Config

end Outbox.PubSub
