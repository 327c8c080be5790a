import RmqMgr.Amqp.Message
import RmqMgr.Amqp.MetaData
import RmqMgr.Parse.Calls
import RmqMgr.Parse.Inbound
import RmqMgr.Parse.Reframing
import RmqMgr.Parse.Termination
import RmqMgr.Session.Acks
import RmqMgr.Session.Agreement
import RmqMgr.Session.Channels
import RmqMgr.Session.Finishing
import RmqMgr.Session.Flushing
import RmqMgr.Session.Isolation
import RmqMgr.Session.Joined
import RmqMgr.Session.Lifecycle
import RmqMgr.Session.Login
import RmqMgr.Session.OwnSetUp
import RmqMgr.Session.Pointers
import RmqMgr.Session.Publishing
import RmqMgr.Session.Replacement
import RmqMgr.Session.Reporting
import RmqMgr.Session.Requests
import RmqMgr.Session.Restart
import RmqMgr.Session.Silence
import RmqMgr.Session.Status
import RmqMgr.Tcp.Carrying
import RmqMgr.Tcp.CloseOrder
import RmqMgr.Tcp.DeadEnds
import RmqMgr.Tcp.QueueSafety
import RmqMgr.Tcp.Reading
import RmqMgr.Tcp.SendOrder
import RmqMgr.Tcp.SocketFlag
