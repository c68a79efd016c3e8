/-!
# Log messages

The messages that the library logs, as templates whose fields are filled in by name.
-/

namespace BucketStore

inductive LogMessage where
  | operationSuccess
  | adapterRegistered
  | adapterCreateFailed
  | bucketCheckFailed
  | bucketCreateStart
  | bucketCreateSuccess
  | bucketCreateFailed
  | objectPutFailed
  | objectGetFailed
  | objectDeleteSuccess
  | objectDeleteFailed
  | objectHeadFailed
  | objectNotFound
  | objectTaggingFailed
  | presignUrlFailed
  | listObjectsFailed
  | listSkipDir
  | listMaxObjectsReached
  | listEnrichFailed
deriving DecidableEq, Inhabited, Repr

namespace LogMessage

def template : LogMessage → String
  | .operationSuccess => "操作成功完成: \x7boperation_name\x7d"
  | .adapterRegistered => "已注册存储适配器: \x7badapter\x7d"
  | .adapterCreateFailed => "创建存储适配器失败: \x7badapter\x7d"
  | .bucketCheckFailed => "检查存储桶失败: \x7bbucket\x7d"
  | .bucketCreateStart => "存储桶不存在，开始创建: \x7bbucket\x7d"
  | .bucketCreateSuccess => "存储桶创建成功: \x7bbucket\x7d"
  | .bucketCreateFailed => "创建存储桶失败: \x7bbucket\x7d"
  | .objectPutFailed => "上传对象失败: \x7bkey\x7d"
  | .objectGetFailed => "下载对象失败: \x7bkey\x7d"
  | .objectDeleteSuccess => "对象删除成功: \x7bkey\x7d"
  | .objectDeleteFailed => "删除对象失败: \x7bkey\x7d"
  | .objectHeadFailed => "获取对象元数据失败: \x7bkey\x7d"
  | .objectNotFound => "对象不存在: \x7bkey\x7d"
  | .objectTaggingFailed => "获取对象标签失败: \x7bkey\x7d"
  | .presignUrlFailed => "生成预签名URL失败: \x7bkey\x7d"
  | .listObjectsFailed => "列举对象失败, prefix=\x7bprefix\x7d"
  | .listSkipDir => "跳过目录占位对象: \x7bkey\x7d"
  | .listMaxObjectsReached => "全量列举达到数量上限，提前结束, total=\x7btotal\x7d"
  | .listEnrichFailed => "补全列举结果失败, prefix=\x7bprefix\x7d"

def name : LogMessage → String
  | .operationSuccess => "OPERATION_SUCCESS"
  | .adapterRegistered => "ADAPTER_REGISTERED"
  | .adapterCreateFailed => "ADAPTER_CREATE_FAILED"
  | .bucketCheckFailed => "BUCKET_CHECK_FAILED"
  | .bucketCreateStart => "BUCKET_CREATE_START"
  | .bucketCreateSuccess => "BUCKET_CREATE_SUCCESS"
  | .bucketCreateFailed => "BUCKET_CREATE_FAILED"
  | .objectPutFailed => "OBJECT_PUT_FAILED"
  | .objectGetFailed => "OBJECT_GET_FAILED"
  | .objectDeleteSuccess => "OBJECT_DELETE_SUCCESS"
  | .objectDeleteFailed => "OBJECT_DELETE_FAILED"
  | .objectHeadFailed => "OBJECT_HEAD_FAILED"
  | .objectNotFound => "OBJECT_NOT_FOUND"
  | .objectTaggingFailed => "OBJECT_TAGGING_FAILED"
  | .presignUrlFailed => "PRESIGN_URL_FAILED"
  | .listObjectsFailed => "LIST_OBJECTS_FAILED"
  | .listSkipDir => "LIST_SKIP_DIR"
  | .listMaxObjectsReached => "LIST_MAX_OBJECTS_REACHED"
  | .listEnrichFailed => "LIST_ENRICH_FAILED"

def all : List LogMessage :=
  [.operationSuccess, .adapterRegistered, .adapterCreateFailed, .bucketCheckFailed,
    .bucketCreateStart, .bucketCreateSuccess, .bucketCreateFailed, .objectPutFailed,
    .objectGetFailed, .objectDeleteSuccess, .objectDeleteFailed, .objectHeadFailed, .objectNotFound,
    .objectTaggingFailed, .presignUrlFailed, .listObjectsFailed, .listSkipDir,
    .listMaxObjectsReached, .listEnrichFailed]

def ofName? (name : String) : Option LogMessage :=
  all.find? fun m => m.name == name

end LogMessage

end BucketStore
