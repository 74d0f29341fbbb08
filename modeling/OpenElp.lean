import OpenElp.Lts.Basic
import OpenElp.Errno
import OpenElp.Worker
import OpenElp.Digest
import OpenElp.Conn
import OpenElp.Authorize
import OpenElp.Msg
import OpenElp.Process
import OpenElp.Conf
import OpenElp.Conf.Line
import OpenElp.Slot.Races
import OpenElp.Data.Chain
import OpenElp.Pool.Slots
import OpenElp.Pool.Workers
import OpenElp.Pool.Accounting
import OpenElp.Conf.Bind
import OpenElp.Log
import OpenElp.Lifecycle
import OpenElp.Data.Buf
import OpenElp.Mutex
import OpenElp.Registration
import OpenElp.Registration.Buffers
import OpenElp.Authorize.Bounds
import OpenElp.Process.Bounds
import OpenElp.Conf.Number
import OpenElp.Conn.Descriptors
import OpenElp.Data.Table
import OpenElp.Pearson
import OpenElp.Data.Blocks
import OpenElp.Md5
import OpenElp.Md5.Rfc
import OpenElp.Md5.Refine
import OpenElp.Md5.Stream
import OpenElp.Proxyd
import OpenElp.Conn.Addr
import OpenElp.Log.Print
import OpenElp.Proxyd.Main
