import SprinklerD.AnswerTruth
import SprinklerD.CacheRoundTrip
import SprinklerD.CalendarListing
import SprinklerD.CronPersistence
import SprinklerD.CronRoundTrip
import SprinklerD.CycleAll
import SprinklerD.DelayExpiry
import SprinklerD.DomoticzAgreement
import SprinklerD.DomoticzMessages
import SprinklerD.DomoticzRequests
import SprinklerD.EchoSuppression
import SprinklerD.ExclusiveWrites
import SprinklerD.HandOver
import SprinklerD.OwnBytes
import SprinklerD.PayloadBytes
import SprinklerD.RefusedRequest
import SprinklerD.RemainingCycle
import SprinklerD.RepeatedRequest
import SprinklerD.RunBefore
import SprinklerD.RunLength
import SprinklerD.RuntimeUpdate
import SprinklerD.StatusTopics
import SprinklerD.SvalueBuffer
import SprinklerD.TableBounds
import SprinklerD.TimedZones
import SprinklerD.UnknownWord
import SprinklerD.ValidDocuments
import SprinklerD.DocumentSize
import SprinklerD.ZoneSearch
import SprinklerD.CacheBounds
import SprinklerD.CacheScan
import SprinklerD.CronBounds
import SprinklerD.InputSetup
import SprinklerD.RootMount
import SprinklerD.ScheduledDay
import SprinklerD.HassioEntities
import SprinklerD.EntityStates
import SprinklerD.CommandDelivery
import SprinklerD.TopicFilter
import SprinklerD.SessionAgreement
import SprinklerD.NetworkRuns
import SprinklerD.MqttStream
import SprinklerD.CronRequests
import SprinklerD.QueryFields
import SprinklerD.Restart
import SprinklerD.DiscoveryDocuments
