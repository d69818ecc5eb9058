import TopicBridge.Bridge.Route
import TopicBridge.Bridge.Message
import TopicBridge.Text.Utf8

/-!
# Multi-line renderings of requests and events

A full, multi-line log shows a request as an indented block, one attribute per line:

```
Exchange[
  Id: <id>
  Route: <route>
  Endpoint: <method> <path>
  Topic: <topic>
  RequestId: <id>        (only when not empty)
  RemoteAddr: <address>  (only when not empty)
  Headers: {Name=v1,v2, Other=v}
  BodyType: []byte
  Body: <body>
]
```

An event is rendered the same way with its id, type, source and topic. A body is shown as
`[Body is empty]`, `[Body is binary]` when it is not well-formed UTF-8, or as its text.
-/

namespace TopicBridge.Bridge

open TopicBridge.Text

/-- How a body is shown in a log. -/
def bodyText (b : Option ByteArray) : String :=
  let bytes := bodyBytes b
  if bytes.size = 0 then "[Body is empty]"
  else if !isValidUtf8 bytes then "[Body is binary]"
  else ofBytes bytes

/-- One attribute line of a rendering. -/
def attrLine (k v : String) : String := "  " ++ k ++ ": " ++ v ++ "\n"

/-- The headers of a request as one line; absent headers show as `{}`. -/
def headersText (h : Option Net.Headers) : String := (h.getD {}).render

/-- The multi-line rendering of a request on a route. -/
def renderExchange (id : String) (route : Route) (req : InboundRequest) : String :=
  "Exchange[\n" ++ attrLine "Id" id ++ attrLine "Route" route.name ++
    attrLine "Endpoint" (req.method ++ " " ++ req.path) ++ attrLine "Topic" route.topic ++
    (if req.requestId = "" then "" else attrLine "RequestId" req.requestId) ++
    (if req.remoteAddr = "" then "" else attrLine "RemoteAddr" req.remoteAddr) ++
    attrLine "Headers" (headersText req.headers) ++ attrLine "BodyType" "[]byte" ++
    attrLine "Body" (bodyText req.body) ++ "]"

/-- The multi-line rendering of an event. -/
def renderEvent (ev : Event) : String :=
  "Event[\n" ++ attrLine "Id" ev.id ++ attrLine "Type" ev.type ++ attrLine "Source" ev.source ++
    attrLine "Topic" ev.topic ++ attrLine "BodyType" "[]byte" ++ attrLine "Body" (bodyText ev.payload) ++ "]"

end TopicBridge.Bridge
