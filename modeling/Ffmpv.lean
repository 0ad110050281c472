import Ffmpv.GL.State
import Ffmpv.GL.Call
import Ffmpv.GL.Errors
import Ffmpv.Rounding
import Ffmpv.Upload
import Ffmpv.Readback
import Ffmpv.Extension
import Ffmpv.Vao
import Ffmpv.Gui
import Ffmpv.Session
import Ffmpv.VaoSession
import Ffmpv.AvCommon.Options
import Ffmpv.AvCommon.Timebase
import Ffmpv.AvCommon.Pts
import Ffmpv.AvCommon.Extradata
import Ffmpv.AvCommon.SideData
import Ffmpv.AvCommon.Codec
import Ffmpv.AvCommon.Headers
import Ffmpv.IntRanges
